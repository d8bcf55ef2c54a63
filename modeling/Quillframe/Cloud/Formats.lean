import Quillframe.Transaction

/-!
# Formats of the hosted service

The identifiers, fingerprints and numbers that the coordinator accepts, and its errors.
-/
namespace Quillframe.Cloud

structure WorkspaceCoordinatorError where
  code : String
  message : String
  deriving DecidableEq, Repr

/-! ## Formats -/

def isSafeInteger (n : ℤ) : Bool := n.natAbs ≤ 2 ^ 53 - 1

/-- The UTF-8 bytes of a text. -/
def utf8 (value : String) : List ℕ := value.toByteArray.data.toList.map UInt8.toNat

/-- A text of characters of an ASCII class, with its length in bounds. -/
def asciiText (p : Char → Bool) (least most : ℕ) (value : String) : Bool :=
  let bytes := utf8 value
  least ≤ bytes.length && bytes.length ≤ most && bytes.all fun byte => p (Char.ofNat byte)

/-- The length of a JavaScript string in code units: one for each character and one more for each
that takes four bytes. -/
def utf16Length (bytes : List ℕ) : ℕ :=
  bytes.countP (fun byte => byte < 0x80 || 0xc0 ≤ byte) + bytes.countP (0xf0 ≤ ·)

/-- The control characters `[\u0000-\u001f\u007f-\u009f]`. -/
def hasControl : List ℕ → Bool
  | [] => false
  | byte :: rest =>
    byte ≤ 0x1f || byte = 0x7f || (byte = 0xc2 && rest.head?.any (· ≤ 0x9f)) || hasControl rest

def boundedText (limit : ℕ) (value : String) : Bool :=
  let bytes := utf8 value
  bytes ≠ [] && utf16Length bytes ≤ limit && !hasControl bytes

/-- `/^[A-Za-z0-9._:-]+$/`, of at most 128 characters. -/
def boundedId : String → Bool :=
  asciiText (fun c => c.isAlphanum || c = '.' || c = '_' || c = ':' || c = '-') 1 128

/-- `/^[A-Za-z0-9][A-Za-z0-9._-]*$/`, of at most 64 characters. -/
def boundedProjectId (value : String) : Bool :=
  asciiText (fun c => c.isAlphanum || c = '.' || c = '_' || c = '-') 1 64 value &&
    (utf8 value).head?.any fun byte => (Char.ofNat byte).isAlphanum

def boundedReason : String → Bool := boundedText 256

def boundedPointerRef : String → Bool := boundedText 512

def lowerHex (c : Char) : Bool := c.isDigit || ('a' ≤ c && c ≤ 'f')

/-- `/^[0-9a-f]{64}$/`. -/
def hexDigest : String → Bool := asciiText lowerHex 64 64

/-- `/^sha256:[0-9a-f]{64}$/`. -/
def versionFingerprint (value : String) : Bool :=
  let bytes := utf8 value
  bytes.length = 71 && bytes.take 7 = utf8 "sha256:" &&
    (bytes.drop 7).all fun byte => lowerHex (Char.ofNat byte)

/-- `/^[A-Za-z0-9_-]+$/`, with its length in bounds. -/
def base64UrlText (least most : ℕ) : String → Bool :=
  asciiText (fun c => c.isAlphanum || c = '_' || c = '-') least most

/-! ## Transactions -/

abbrev StorageTransaction (σ : Type) := Transaction WorkspaceCoordinatorError σ

/-- A failure before the first write. -/
def failure {σ : Type} (code message : String) : Failure WorkspaceCoordinatorError σ :=
  ⟨⟨code, message⟩, none⟩

end Quillframe.Cloud
