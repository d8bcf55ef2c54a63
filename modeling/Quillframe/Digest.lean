import Quillframe.Json

/-!
# Fingerprints

The digest is a parameter: an abstract type of canonical fingerprints with the fingerprint of a
JSON text and of a text put together from literal pieces and other fingerprints. Results that
need injectivity assume `CollisionFree`; the symbolic digest at the end satisfies it.
-/
namespace Quillframe

class Sha256 (Fp : Type) where
  ofPieces : List (String ⊕ Fp) → Fp
  ofJson : Json Fp → Fp

namespace Sha256

variable {Fp : Type} [Sha256 Fp]

def ofText (text : String) : Fp := ofPieces [.inl text]

/-- The fingerprint of `"{left}:{right}"`. -/
def ofLink (left : String ⊕ Fp) (right : Fp) : Fp := ofPieces [left, .inl ":", .inr right]

end Sha256

/-- What SHA-256 is trusted for: distinct texts of one of the forms in use have distinct
fingerprints, and no JSON text is the empty text. -/
class CollisionFree (Fp : Type) [Sha256 Fp] : Prop where
  ofJson_injective : Function.Injective (Sha256.ofJson : Json Fp → Fp)
  ofText_injective : Function.Injective (Sha256.ofText : String → Fp)
  ofLink_injective {a c : String ⊕ Fp} {b d : Fp} :
    Sha256.ofLink a b = Sha256.ofLink c d → a = c ∧ b = d
  ofJson_ne_empty (v : Json Fp) : Sha256.ofJson v ≠ (Sha256.ofText "" : Fp)

/-- A document that is not checked yet may hold any text where a fingerprint belongs;
`is_fingerprint` tells the canonical ones. -/
class FingerprintText (Fp : Type) where
  canonical : Fp → Bool

/-! ## The symbolic digest -/

/-- A digest that keeps the text it was made from. -/
inductive Digest where
  | tag (code : ℕ)
  | text (value : String)
  | number (value : ℤ)
  | pair (left right : Digest)
  deriving DecidableEq, Repr

namespace Digest

def ofDecimal (d : Decimal) : Digest :=
  pair (tag (if d.negative then 1 else 0)) (pair (number d.significand) (number d.exponent))

mutual

def encode : Json Digest → Digest
  | .null => tag 0
  | .bool b => pair (tag 1) (tag (if b then 1 else 0))
  | .int n => pair (tag 2) (number n)
  | .float d => pair (tag 3) (ofDecimal d)
  | .str s => pair (tag 4) (text s)
  | .fp h => pair (tag 5) h
  | .arr items => pair (tag 6) (encodeItems items)
  | .obj members => pair (tag 7) (encodeMembers members)

def encodeItems : List (Json Digest) → Digest
  | [] => tag 0
  | v :: rest => pair (encode v) (encodeItems rest)

def encodeMembers : List (String × Json Digest) → Digest
  | [] => tag 0
  | (key, v) :: rest => pair (text key) (pair (encode v) (encodeMembers rest))

end

theorem ofDecimal_injective : Function.Injective ofDecimal := by
  rintro ⟨n, s, e⟩ ⟨n', s', e'⟩ h
  simp only [ofDecimal, pair.injEq, tag.injEq, number.injEq, Nat.cast_inj] at h
  obtain ⟨hn, rfl, rfl⟩ := h
  cases n <;> cases n' <;> simp_all

mutual

theorem encode_inj : ∀ {v w : Json Digest}, encode v = encode w → v = w
  | .null, w, h => by cases w <;> simp_all [encode]
  | .bool b, w, h => by
    cases w with
    | bool c => cases b <;> cases c <;> simp_all [encode]
    | _ => simp [encode] at h
  | .int n, w, h => by cases w <;> simp_all [encode]
  | .float d, w, h => by
    cases w with
    | float e =>
      simp only [encode, pair.injEq, true_and] at h
      rw [ofDecimal_injective h]
    | _ => simp [encode] at h
  | .str s, w, h => by cases w <;> simp_all [encode]
  | .fp f, w, h => by cases w <;> simp_all [encode]
  | .arr xs, w, h => by
    cases w with
    | arr ys =>
      simp only [encode, pair.injEq, true_and] at h
      rw [encodeItems_inj h]
    | _ => simp [encode] at h
  | .obj xs, w, h => by
    cases w with
    | obj ys =>
      simp only [encode, pair.injEq, true_and] at h
      rw [encodeMembers_inj h]
    | _ => simp [encode] at h

theorem encodeItems_inj : ∀ {xs ys : List (Json Digest)},
    encodeItems xs = encodeItems ys → xs = ys
  | [], [], _ => rfl
  | [], _ :: _, h => by simp [encodeItems] at h
  | _ :: _, [], h => by simp [encodeItems] at h
  | x :: xs, y :: ys, h => by
    simp only [encodeItems, pair.injEq] at h
    rw [encode_inj h.1, encodeItems_inj h.2]

theorem encodeMembers_inj : ∀ {xs ys : List (String × Json Digest)},
    encodeMembers xs = encodeMembers ys → xs = ys
  | [], [], _ => rfl
  | [], _ :: _, h => by simp [encodeMembers] at h
  | _ :: _, [], h => by simp [encodeMembers] at h
  | (k, x) :: xs, (l, y) :: ys, h => by
    simp only [encodeMembers, pair.injEq, text.injEq] at h
    rw [h.1, encode_inj h.2.1, encodeMembers_inj h.2.2]

end

def ofPiece : String ⊕ Digest → Digest
  | .inl s => pair (tag 0) (text s)
  | .inr h => pair (tag 1) h

theorem ofPiece_injective : Function.Injective ofPiece := by
  rintro (a | a) (b | b) h <;> simp_all [ofPiece]

instance : Sha256 Digest where
  ofPieces pieces := pieces.foldr (fun piece rest => pair (ofPiece piece) rest) (tag 0)
  ofJson v := pair (tag 1) (encode v)

instance : CollisionFree Digest where
  ofJson_injective v w h := by
    simp only [Sha256.ofJson, pair.injEq, true_and] at h
    exact encode_inj h
  ofText_injective s t h := by
    simpa [Sha256.ofText, Sha256.ofPieces, ofPiece] using h
  ofLink_injective {a c b d} h := by
    simp only [Sha256.ofLink, Sha256.ofPieces, List.foldr_cons, List.foldr_nil, pair.injEq,
      and_true, true_and] at h
    exact ⟨ofPiece_injective h.1, by simpa using ofPiece_injective h.2⟩
  ofJson_ne_empty v h := by
    simp [Sha256.ofText, Sha256.ofPieces, Sha256.ofJson, ofPiece] at h

/-- Every digest is canonical, a bare text is not. -/
instance : FingerprintText Digest where
  canonical
    | text _ => false
    | _ => true

/-! ## Digests as texts -/

def strokes (n : ℕ) : List Char := List.replicate n '1' ++ ['0']

/-- The digits of a digest, of which none is the beginning of another. -/
def digits : Digest → List Char
  | tag code => '1' :: strokes code
  | text value => '2' :: (strokes value.toList.length ++ value.toList)
  | number (.ofNat n) => '3' :: strokes n
  | number (.negSucc n) => '4' :: strokes n
  | pair left right => '5' :: (digits left ++ digits right)

def hex (digest : Digest) : String := String.ofList digest.digits

/-- The digest of bytes. -/
def ofBytes (bytes : ByteArray) : Digest :=
  pair (tag 2) (text (String.ofList (bytes.data.toList.map fun byte => Char.ofNat byte.toNat)))

theorem strokes_append_inj {n m : ℕ} {rest rest' : List Char}
    (h : strokes n ++ rest = strokes m ++ rest') : n = m ∧ rest = rest' := by
  induction n generalizing m with
  | zero =>
    cases m with
    | zero => exact ⟨rfl, by simpa [strokes] using h⟩
    | succ m => simp [strokes, List.replicate_succ] at h
  | succ n ih =>
    cases m with
    | zero => simp [strokes, List.replicate_succ] at h
    | succ m =>
      obtain ⟨hn, hrest⟩ := ih (m := m) (by simpa [strokes, List.replicate_succ] using h)
      exact ⟨congrArg Nat.succ hn, hrest⟩

theorem digits_append_inj {digest other : Digest} {rest rest' : List Char}
    (h : digits digest ++ rest = digits other ++ rest') : digest = other ∧ rest = rest' := by
  induction digest generalizing other rest rest' with
  | tag code =>
    cases other with
    | tag code' =>
      obtain ⟨rfl, hrest⟩ := strokes_append_inj (List.cons.inj h).2
      exact ⟨rfl, hrest⟩
    | number n => cases n <;> cases h
    | _ => cases h
  | text value =>
    cases other with
    | text value' =>
      rw [digits, digits, List.cons_append, List.cons_append, List.append_assoc,
        List.append_assoc] at h
      obtain ⟨hlength, hvalues⟩ := strokes_append_inj (List.cons.inj h).2
      obtain ⟨hvalue, hrest⟩ := List.append_inj hvalues hlength
      exact ⟨congrArg text (String.toList_injective hvalue), hrest⟩
    | number n => cases n <;> cases h
    | _ => cases h
  | number n =>
    cases other with
    | number m =>
      cases n <;> cases m <;> first
        | cases h
        | obtain ⟨rfl, hrest⟩ := strokes_append_inj (List.cons.inj h).2
          exact ⟨rfl, hrest⟩
    | _ => cases n <;> cases h
  | pair left right ihLeft ihRight =>
    cases other with
    | pair left' right' =>
      rw [digits, digits, List.cons_append, List.cons_append, List.append_assoc,
        List.append_assoc] at h
      obtain ⟨rfl, hright⟩ := ihLeft (List.cons.inj h).2
      obtain ⟨rfl, hrest⟩ := ihRight hright
      exact ⟨rfl, hrest⟩
    | number n => cases n <;> cases h
    | _ => cases h

theorem hex_injective : Function.Injective hex := by
  intro digest other h
  have hdigits : digits digest ++ [] = digits other ++ [] := by
    rw [List.append_nil, List.append_nil, String.ofList_injective h]
  exact (digits_append_inj hdigits).1

theorem toNat_char_ofNat (byte : UInt8) : (Char.ofNat byte.toNat).toNat = byte.toNat := by
  have hlt := byte.toNat_lt
  rw [Char.ofNat, dif_pos (Or.inl (by omega))]
  rfl

theorem ofBytes_injective : Function.Injective ofBytes := by
  intro bytes other h
  have hbyte : Function.Injective fun byte : UInt8 => Char.ofNat byte.toNat := by
    intro byte byte' he
    have hnat := congrArg Char.toNat he
    rw [toNat_char_ofNat, toNat_char_ofNat] at hnat
    exact UInt8.toNat_inj.mp hnat
  simp only [ofBytes, pair.injEq, text.injEq, true_and] at h
  exact ByteArray.ext (Array.toList_inj.mp (hbyte.list_map (String.ofList_injective h)))

end Digest

end Quillframe
