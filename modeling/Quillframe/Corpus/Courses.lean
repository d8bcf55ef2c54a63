import Quillframe.Corpus.Progress

/-!
# The course of a study

What a corpus study is for: a selection of works goes through the stages of the analysis, one
call of a model for each unit of a stage. A study pauses behind the first chapters until the
author lets it continue, and it is complete with its pack. The steps here are those that the
database of the corpus commits, as far as one study is concerned.
-/
namespace Quillframe.Corpus

inductive StudyStatus where
  | proposed
  | confirmed
  | running
  | pausedGoldenThree
  | complete
  | cancelled
  deriving DecidableEq, Repr

inductive StageCallState where
  | dispatched
  | confirmed
  | unconfirmed
  | cancelled
  | invalid
  deriving DecidableEq, Repr

structure CourseCall where
  stage : AnalyzeStage
  unit : String
  state : StageCallState
  deriving DecidableEq

/-- Without a status there is no proposal, without a stage no study. -/
structure Course where
  status : Option StudyStatus
  works : List String
  stage : Option AnalyzeStage
  queue : List String
  calls : List CourseCall
  authorized : Bool
  packed : Bool

/-- A call takes a state. -/
def settle (s : AnalyzeStage) (u : String) (state : StageCallState) (calls : List CourseCall) :
    List CourseCall :=
  calls.map fun call => if call.stage = s ∧ call.unit = u then ⟨s, u, state⟩ else call

namespace Course

/-- Nothing is known of the study. -/
def unknown : Course := ⟨none, [], none, [], [], false, false⟩

def Has (c : Course) (s : AnalyzeStage) (u : String) (state : StageCallState) : Prop :=
  (⟨s, u, state⟩ : CourseCall) ∈ c.calls

/-- The unit has a call. -/
def Called (c : Course) (s : AnalyzeStage) (u : String) : Prop := ∃ state, c.Has s u state

/-- The units of a stage whose units are known before it starts. -/
def units (c : Course) : AnalyzeStage → List String
  | .goldenThree | .storyEntities => c.works
  | _ => ["all"]

/-- The first of the units that is not confirmed. -/
def First (c : Course) (s : AnalyzeStage) (units : List String) (u : String) : Prop :=
  ∃ front back, units = front ++ u :: back ∧ ∀ v ∈ front, c.Has s v .confirmed

/-- The units of the extraction are those that the last answer asks for. -/
def Turn (c : Course) (s : AnalyzeStage) (u : String) : Prop :=
  if s = .chapterExtraction then (∀ v, ¬ c.Called s v) ∨ c.First s c.queue u
  else c.First s (c.units s) u

/-- A stage is through. -/
def Done (c : Course) (s : AnalyzeStage) : Prop :=
  if s = .chapterExtraction then
    (∃ u, c.Has s u .confirmed) ∧ ∀ u state, c.Has s u state → state = .confirmed
  else ∀ u ∈ c.units s, c.Has s u .confirmed

def confirmedCount (c : Course) (s : AnalyzeStage) : ℕ :=
  c.calls.countP fun call => call.stage = s ∧ call.state = .confirmed

def dispatch (c : Course) (s : AnalyzeStage) (u : String) : Course :=
  { c with calls := c.calls ++ [⟨s, u, .dispatched⟩] }

/-- A call is answered or given up. -/
def settled (c : Course) (s : AnalyzeStage) (u : String) (state : StageCallState)
    (queue : List String) : Course :=
  { c with calls := settle s u state c.calls, queue }

/-- A commit, as far as one study is concerned. -/
inductive Step : Course → Course → Prop
  | proposed {c : Course} {works : List String} (hnew : c.status = none) (hworks : works.Nodup) :
    Step c { c with status := some .proposed, works }
  | selected {c : Course} {works : List String}
    (hopen : c.status = some .proposed ∨ c.status = some .confirmed)
    (hworks : works.Sublist c.works) :
    Step c { c with
      status := some .confirmed, works, stage := some (c.stage.getD .goldenThree) }
  | dispatched {c : Course} {s : AnalyzeStage} {u : String}
    (hopen : c.status = some .confirmed ∨ c.status = some .running) (hstage : c.stage = some s)
    (hfresh : ¬ c.Called s u) (hturn : c.Turn s u) : Step c (c.dispatch s u)
  | answered {c : Course} {s : AnalyzeStage} {u : String} {queue : List String}
    (hcall : c.Has s u .dispatched)
    (hqueue : if s = .chapterExtraction then ∀ v ∈ queue, v ≠ u ∧ ¬ c.Has s v .confirmed
      else queue = c.queue) :
    Step c (c.settled s u .confirmed queue)
  | unconfirmed {c : Course} {s : AnalyzeStage} {u : String} (hcall : c.Has s u .dispatched) :
    Step c (c.settled s u .unconfirmed c.queue)
  | paused {c : Course} (hopen : c.status = some .confirmed)
    (hdone : c.works.length ≤ c.confirmedCount .goldenThree) :
    Step c { c with status := some .pausedGoldenThree }
  | continued {c : Course} (hpaused : c.status = some .pausedGoldenThree) :
    Step c { c with
      status := some .running, stage := some .chapterExtraction, authorized := true }
  | entered {c : Course} {s next : AnalyzeStage} (hopen : c.status ≠ some .complete)
    (hstage : c.stage = some s) (hs : .goldenThree < s) (hnext : s.next = some next)
    (hdone : c.Done s) : Step c { c with stage := some next }
  | resumed {c : Course} {s : AnalyzeStage} (hopen : c.status ≠ some .complete)
    (hstage : c.stage = some s) (hs : .chapterExtraction < s) :
    Step c { c with status := some .running }
  | finished {c : Course} (hstage : c.stage = some .styleProfile) (hdone : c.Done .styleProfile) :
    Step c { c with status := some .complete, packed := true }
  | cancelled {c : Course} (hknown : c.status ≠ none) (hopen : c.status ≠ some .complete) :
    Step c { c with status := some .cancelled }

/-! ## What holds at every step -/

/-- The status of a study goes with its stage. -/
structure Phased (c : Course) : Prop where
  unstaged : c.stage = none → c.authorized = false ∧ c.calls = [] ∧
    (c.status = none ∨ c.status = some .proposed ∨ c.status = some .cancelled)
  previewing : c.stage = some .goldenThree → c.authorized = false ∧
    (c.status = some .confirmed ∨ c.status = some .pausedGoldenThree ∨
      c.status = some .cancelled)
  continued : ∀ s, c.stage = some s → s ≠ .goldenThree → c.authorized = true ∧ .goldenThree < s ∧
    (c.status = some .running ∨ c.status = some .complete ∨ c.status = some .cancelled)
  packed : c.packed = true ↔ c.status = some .complete
  complete : c.status = some .complete → c.stage = some .styleProfile

/-- The units that the last answer of the extraction asks for. -/
structure Queued (c : Course) : Prop where
  unstarted : (∀ u, ¬ c.Called .chapterExtraction u) → c.queue = []
  unconfirmed : ∀ u ∈ c.queue, ¬ c.Has .chapterExtraction u .confirmed
  pending : ∀ u state, c.Has .chapterExtraction u state → state ≠ .confirmed →
    (∃ rest, c.queue = u :: rest) ∨ (c.queue = [] ∧ ∀ v, c.Called .chapterExtraction v → v = u)

structure Sound (c : Course) : Prop where
  phased : c.Phased
  queued : c.Queued
  works : c.works.Nodup
  distinct : (c.calls.map fun call => (call.stage, call.unit)).Nodup
  reached : ∀ call ∈ c.calls, ∃ s, c.stage = some s ∧ .goldenThree ≤ call.stage ∧ call.stage ≤ s
  units : ∀ call ∈ c.calls, .chapterExtraction < call.stage → call.unit ∈ c.units call.stage
  ordered : ∀ s, .chapterExtraction < s →
    (c.units s).Pairwise fun u v => c.Called s v → c.Has s u .confirmed
  done : ∀ s, .chapterExtraction ≤ s →
    (∃ current, c.stage = some current ∧ s < current) ∨ c.status = some .complete → c.Done s
  preview : c.status = some .pausedGoldenThree ∨ (∃ s, c.stage = some s ∧ .goldenThree < s) →
    c.works.length ≤ c.confirmedCount .goldenThree

end Course

/-! ## Calls that take a state -/

section Settle

variable {calls : List CourseCall} {s t : AnalyzeStage} {u v : String}
  {state state' old : StageCallState}

theorem settle_of_fresh (hfresh : ∀ call ∈ calls, ¬ (call.stage = s ∧ call.unit = u)) :
    settle s u state calls = calls := by
  induction calls with
  | nil => rfl
  | cons call rest ih =>
    have hrest := ih fun other hother => hfresh other (List.mem_cons_of_mem _ hother)
    have hcall := hfresh call List.mem_cons_self
    rw [settle, List.map_cons, if_neg hcall]
    exact congrArg (call :: ·) hrest

theorem mem_settle (hcall : ⟨s, u, old⟩ ∈ calls) :
    ⟨t, v, state'⟩ ∈ settle s u state calls ↔
      if t = s ∧ v = u then state' = state else ⟨t, v, state'⟩ ∈ calls := by
  rw [settle, List.mem_map]
  constructor
  · intro h
    obtain ⟨call, hmem, heq⟩ := h
    by_cases hkey : call.stage = s ∧ call.unit = u
    · rw [if_pos hkey] at heq
      cases heq
      simp
    · rw [if_neg hkey] at heq
      subst heq
      rw [if_neg hkey]
      exact hmem
  · intro h
    by_cases hkey : t = s ∧ v = u
    · rw [if_pos hkey] at h
      exact ⟨⟨s, u, old⟩, hcall, by simp [hkey, h]⟩
    · rw [if_neg hkey] at h
      exact ⟨⟨t, v, state'⟩, h, by simp [hkey]⟩

theorem keys_settle (s : AnalyzeStage) (u : String) (state : StageCallState)
    (calls : List CourseCall) :
    (settle s u state calls).map (fun call => (call.stage, call.unit)) =
      calls.map fun call => (call.stage, call.unit) := by
  rw [settle, List.map_map]
  apply List.map_congr_left
  intro call _
  by_cases hkey : call.stage = s ∧ call.unit = u
  · simp [hkey]
  · simp [hkey]

/-- A dispatched call that is confirmed counts once more. -/
theorem countP_settle (hdistinct : (calls.map fun call => (call.stage, call.unit)).Nodup)
    (hcall : ⟨s, u, .dispatched⟩ ∈ calls) :
    (settle s u .confirmed calls).countP (fun call => call.stage = s ∧ call.state = .confirmed) =
      calls.countP (fun call => call.stage = s ∧ call.state = .confirmed) + 1 := by
  induction calls with
  | nil => cases hcall
  | cons call rest ih =>
    rw [List.map_cons, List.nodup_cons] at hdistinct
    by_cases hkey : call.stage = s ∧ call.unit = u
    · have hrest : ∀ other ∈ rest, ¬ (other.stage = s ∧ other.unit = u) := by
        intro other hother hsame
        apply hdistinct.1
        rw [List.mem_map]
        exact ⟨other, hother, by rw [hsame.1, hsame.2, hkey.1, hkey.2]⟩
      have hhead : call = ⟨s, u, .dispatched⟩ := by
        rcases List.mem_cons.mp hcall with h | h
        · exact h.symm
        · exact absurd ⟨rfl, rfl⟩ (hrest _ h)
      have hsettle : settle s u .confirmed (call :: rest) = ⟨s, u, .confirmed⟩ :: rest := by
        have hsame : settle s u .confirmed rest = rest := settle_of_fresh hrest
        rw [settle] at hsame ⊢
        rw [List.map_cons, if_pos hkey, hsame]
      rw [hsettle, hhead]
      simp
    · have hmem : ⟨s, u, .dispatched⟩ ∈ rest := by
        rcases List.mem_cons.mp hcall with h | h
        · exact absurd ⟨by rw [← h], by rw [← h]⟩ hkey
        · exact h
      have hsettle : settle s u .confirmed (call :: rest) =
          call :: settle s u .confirmed rest := by
        rw [settle, List.map_cons, if_neg hkey, settle]
      rw [hsettle, List.countP_cons, List.countP_cons, ih hdistinct.2 hmem]
      omega

/-- The other calls count as before. -/
theorem countP_settle_le (hdistinct : (calls.map fun call => (call.stage, call.unit)).Nodup)
    (hcall : ⟨s, u, .dispatched⟩ ∈ calls) (t : AnalyzeStage) (state : StageCallState) :
    calls.countP (fun call => call.stage = t ∧ call.state = .confirmed) ≤
      (settle s u state calls).countP fun call => call.stage = t ∧ call.state = .confirmed := by
  rw [settle, List.countP_map]
  apply List.countP_mono_left
  intro call hmem hconfirmed
  by_cases hkey : call.stage = s ∧ call.unit = u
  · have hsame : call = ⟨s, u, .dispatched⟩ := by
      apply List.inj_on_of_nodup_map hdistinct hmem hcall
      rw [hkey.1, hkey.2]
    rw [hsame] at hconfirmed
    simp at hconfirmed
  · simpa [hkey] using hconfirmed

end Settle

namespace Course

section Sound

variable {c d : Course} {s t : AnalyzeStage} {u v : String} {state state' : StageCallState}

theorem nodup_units (h : c.works.Nodup) (s : AnalyzeStage) : (c.units s).Nodup := by
  cases s <;> simp [units, h]

theorem Sound.unique (h : c.Sound) (hfirst : c.Has s u state) (hsecond : c.Has s u state') :
    state = state' := by
  have hsame := List.inj_on_of_nodup_map h.distinct hfirst hsecond rfl
  exact congrArg CourseCall.state hsame

/-- A study has no calls of the stages that it has not reached. -/
theorem Sound.uncalled (h : c.Sound) (hstage : ∀ current, c.stage = some current → current < s)
    (u : String) : ¬ c.Called s u := by
  intro hcalled
  obtain ⟨state, hhas⟩ := hcalled
  obtain ⟨current, hcurrent, -, hle⟩ := h.reached _ hhas
  exact absurd (hstage current hcurrent) (not_lt.mpr hle)

/-- Every call of a stage that is through is confirmed. -/
theorem Sound.confirmed (h : c.Sound) (hs : .chapterExtraction ≤ s) (hdone : c.Done s)
    (hhas : c.Has s u state) : state = .confirmed := by
  by_cases hextraction : s = .chapterExtraction
  · rw [Done, if_pos hextraction] at hdone
    exact hdone.2 u state hhas
  · rw [Done, if_neg hextraction] at hdone
    have hlt : .chapterExtraction < s := lt_of_le_of_ne hs (Ne.symm hextraction)
    exact h.unique hhas (hdone u (h.units _ hhas hlt))

theorem sound_unknown : unknown.Sound where
  phased := by constructor <;> simp [unknown]
  queued := by constructor <;> simp [unknown, Has]
  works := List.nodup_nil
  distinct := List.nodup_nil
  reached call hcall := by cases hcall
  units call hcall := by cases hcall
  ordered s _ := by
    apply List.pairwise_of_forall
    intro u v hcalled
    obtain ⟨state, hhas⟩ := hcalled
    cases hhas
  done s _ h := by simp [unknown] at h
  preview h := by simp [unknown] at h

end Sound

section Step

variable {c d : Course} {s next : AnalyzeStage} {u : String}

/-- A study that is proposed has no calls yet. -/
theorem Sound.proposed {works : List String} (h : c.Sound) (hnew : c.status = none)
    (hworks : works.Nodup) : Sound { c with status := some .proposed, works } := by
  have hstage : c.stage = none := by
    cases hc : c.stage with
    | none => rfl
    | some s =>
      by_cases hs : s = .goldenThree
      · have hstatus := (h.phased.previewing (hs ▸ hc)).2
        simp [hnew] at hstatus
      · have hstatus := (h.phased.continued s hc hs).2.2
        simp [hnew] at hstatus
  obtain ⟨hauthorized, hcalls, -⟩ := h.phased.unstaged hstage
  have hpacked : c.packed ≠ true := by simp [h.phased.packed, hnew]
  have huncalled : ∀ s u, ¬ c.Called s u := by
    intro s u hcalled
    obtain ⟨state, hhas⟩ := hcalled
    rw [Has, hcalls] at hhas
    cases hhas
  constructor
  · constructor <;> simp [hstage, hauthorized, hcalls, hpacked]
  · exact ⟨h.queued.unstarted, h.queued.unconfirmed, h.queued.pending⟩
  · exact hworks
  · exact h.distinct
  · exact h.reached
  · intro call hcall
    simp [hcalls] at hcall
  · intro s _
    apply List.pairwise_of_forall
    intro u v hcalled
    exact absurd hcalled (huncalled s v)
  · simp [hstage]
  · simp [hstage]

theorem Sound.selected {works : List String} (h : c.Sound)
    (hopen : c.status = some .proposed ∨ c.status = some .confirmed)
    (hworks : works.Sublist c.works) :
    Sound { c with
      status := some .confirmed, works, stage := some (c.stage.getD .goldenThree) } := by
  have hstage : c.stage = none ∨ c.stage = some .goldenThree := by
    cases hc : c.stage with
    | none => exact .inl rfl
    | some s =>
      by_cases hs : s = .goldenThree
      · exact .inr (congrArg some hs)
      · have hstatus := (h.phased.continued s hc hs).2.2
        rcases hopen with h | h <;> simp [h] at hstatus
  have hgolden : c.stage.getD .goldenThree = .goldenThree := by
    rcases hstage with h | h <;> rw [h] <;> rfl
  have hauthorized : c.authorized = false := by
    rcases hstage with hc | hc
    · exact (h.phased.unstaged hc).1
    · exact (h.phased.previewing hc).1
  have hpacked : c.packed ≠ true := by
    rcases hopen with hc | hc <;> simp [h.phased.packed, hc]
  have hstages : ∀ call ∈ c.calls, call.stage = .goldenThree := by
    intro call hcall
    obtain ⟨s, hs, hlow, hhigh⟩ := h.reached call hcall
    rcases hstage with hc | hc
    · simp [hc] at hs
    · obtain rfl : .goldenThree = s := by simpa [hc] using hs
      exact le_antisymm hhigh hlow
  have huncalled : ∀ s, .goldenThree < s → ∀ u, ¬ c.Called s u := by
    intro s hs u hcalled
    obtain ⟨state, hhas⟩ := hcalled
    have hsame := hstages _ hhas
    exact absurd hs (by rw [← hsame]; exact lt_irrefl _)
  rw [hgolden]
  constructor
  · constructor <;> simp [hauthorized, hpacked]
  · exact ⟨h.queued.unstarted, h.queued.unconfirmed, h.queued.pending⟩
  · exact hworks.nodup h.works
  · exact h.distinct
  · intro call hcall
    refine ⟨.goldenThree, rfl, ?_⟩
    rw [hstages call hcall]
    exact ⟨le_refl _, le_refl _⟩
  · intro call hcall hlt
    rw [hstages call hcall] at hlt
    exact absurd hlt (by decide)
  · intro s hs
    apply List.pairwise_of_forall
    intro u v hcalled
    exact absurd hcalled (huncalled s (lt_trans (by decide) hs) v)
  · intro s hs hthrough
    simp only [Option.some.injEq, reduceCtorEq, or_false, exists_eq_left'] at hthrough
    exact absurd (lt_of_le_of_lt hs hthrough) (by decide)
  · simp

theorem Sound.turn_extraction (h : c.Sound) (hturn : c.Turn .chapterExtraction u) :
    (c.queue = [] ∧ ∀ v, ¬ c.Called .chapterExtraction v) ∨ ∃ rest, c.queue = u :: rest := by
  rw [Turn, if_pos rfl] at hturn
  rcases hturn with hnone | hfirst
  · exact .inl ⟨h.queued.unstarted hnone, hnone⟩
  · obtain ⟨front, back, hqueue, hfront⟩ := hfirst
    cases front with
    | nil => exact .inr ⟨back, hqueue⟩
    | cons v rest =>
      have hv : v ∈ c.queue := by simp [hqueue]
      exact absurd (hfront v List.mem_cons_self) (h.queued.unconfirmed v hv)

theorem has_dispatch {t : AnalyzeStage} {v : String} {state : StageCallState} :
    (c.dispatch s u).Has t v state ↔ c.Has t v state ∨ (t = s ∧ v = u ∧ state = .dispatched) := by
  simp [Has, dispatch]

theorem called_dispatch {t : AnalyzeStage} {v : String} :
    (c.dispatch s u).Called t v ↔ c.Called t v ∨ (t = s ∧ v = u) := by
  simp only [Called, has_dispatch]
  constructor
  · intro h
    obtain ⟨state, hold | hnew⟩ := h
    · exact .inl ⟨state, hold⟩
    · exact .inr ⟨hnew.1, hnew.2.1⟩
  · intro h
    rcases h with ⟨state, hold⟩ | ⟨ht, hv⟩
    · exact ⟨state, .inl hold⟩
    · exact ⟨.dispatched, .inr ⟨ht, hv, rfl⟩⟩

theorem Sound.queued_dispatch (h : c.Sound) (hfresh : ¬ c.Called s u) (hturn : c.Turn s u) :
    (c.dispatch s u).Queued := by
  by_cases hs : s = .chapterExtraction
  · subst hs
    have hqueue : (c.dispatch .chapterExtraction u).queue = c.queue := rfl
    constructor
    · intro hnone
      exact absurd (called_dispatch.mpr (.inr ⟨rfl, rfl⟩)) (hnone u)
    · intro v hv hhas
      rcases has_dispatch.mp hhas with hold | ⟨-, -, hstate⟩
      · exact h.queued.unconfirmed v hv hold
      · cases hstate
    · intro v state hhas hstate
      rcases h.turn_extraction hturn with ⟨hempty, hnone⟩ | ⟨rest, hhead⟩
      · -- the first call of the extraction
        have hfirst : ∀ w, (c.dispatch .chapterExtraction u).Called .chapterExtraction w →
            w = u := by
          intro w hw
          rcases called_dispatch.mp hw with hold | ⟨-, hw⟩
          · exact absurd hold (hnone w)
          · exact hw
        refine .inr ⟨hempty, ?_⟩
        intro w hw
        rw [hfirst w hw, hfirst v ⟨state, hhas⟩]
      · rcases has_dispatch.mp hhas with hold | ⟨-, hv, -⟩
        · -- an open call would stand at the head of the queue
          rcases h.queued.pending v state hold hstate with ⟨more, hmore⟩ | ⟨hempty, -⟩
          · rw [hhead, List.cons.injEq] at hmore
            exact absurd ⟨state, hmore.1 ▸ hold⟩ hfresh
          · simp [hhead] at hempty
        · exact .inl ⟨rest, hv ▸ hhead⟩
  · have hhas : ∀ v state, (c.dispatch s u).Has .chapterExtraction v state ↔
        c.Has .chapterExtraction v state := by
      intro v state
      simp [has_dispatch, Ne.symm hs]
    have hcalled : ∀ v, (c.dispatch s u).Called .chapterExtraction v ↔
        c.Called .chapterExtraction v := by
      intro v
      simp only [Called, hhas]
    constructor
    · simp only [hcalled]
      exact h.queued.unstarted
    · simp only [hhas]
      exact h.queued.unconfirmed
    · simp only [hhas, hcalled]
      exact h.queued.pending

/-- The units of a stage are called in their order. -/
theorem Sound.ordered_dispatch (h : c.Sound) (hturn : c.Turn s u) {t : AnalyzeStage}
    (ht : .chapterExtraction < t) : (c.units t).Pairwise fun v w =>
      (c.dispatch s u).Called t w → (c.dispatch s u).Has t v .confirmed := by
  have hold := h.ordered t ht
  by_cases hts : t = s
  · subst hts
    rw [Turn, if_neg (ne_of_gt ht)] at hturn
    obtain ⟨front, back, hunits, hfront⟩ := hturn
    have hnodup := nodup_units h.works t
    rw [hunits] at hold hnodup ⊢
    have hfar : ∀ v w, w ≠ u → (c.Called t w → c.Has t v .confirmed) →
        (c.dispatch t u).Called t w → (c.dispatch t u).Has t v .confirmed := by
      intro v w hw himp hcalled
      rcases called_dispatch.mp hcalled with hc | ⟨-, hwu⟩
      · exact has_dispatch.mpr (.inl (himp hc))
      · exact absurd hwu hw
    rw [List.nodup_append] at hnodup
    have hfrontne : ∀ w ∈ front, w ≠ u := fun w hw => hnodup.2.2 w hw u List.mem_cons_self
    have hbackne : ∀ w ∈ back, w ≠ u := by
      intro w hw hwu
      exact (List.nodup_cons.mp hnodup.2.1).1 (hwu ▸ hw)
    rw [List.pairwise_append, List.pairwise_cons] at hold ⊢
    obtain ⟨hfronts, ⟨hhead, hbacks⟩, hacross⟩ := hold
    refine ⟨?_, ⟨?_, ?_⟩, ?_⟩
    · exact hfronts.imp_of_mem fun _ hw => hfar _ _ (hfrontne _ hw)
    · exact fun w hw => hfar u w (hbackne w hw) (hhead w hw)
    · exact hbacks.imp_of_mem fun _ hw => hfar _ _ (hbackne _ hw)
    · intro v hv w hw
      rcases List.mem_cons.mp hw with hwu | hw
      · exact fun _ => has_dispatch.mpr (.inl (hfront v hv))
      · exact hfar v w (hbackne w hw) (hacross v hv w (List.mem_cons_of_mem _ hw))
  · apply hold.imp
    intro v w himp hcalled
    rcases called_dispatch.mp hcalled with hc | ⟨hsame, -⟩
    · exact has_dispatch.mpr (.inl (himp hc))
    · exact absurd hsame hts

/-- A stage that is through is not the one that calls are dispatched in. -/
theorem done_dispatch {t : AnalyzeStage} (hts : t ≠ s) (h : c.Done t) :
    (c.dispatch s u).Done t := by
  have hhas : ∀ v state, (c.dispatch s u).Has t v state ↔ c.Has t v state := by
    intro v state
    simp [has_dispatch, hts]
  have hunits : (c.dispatch s u).units t = c.units t := by
    cases t <;> rfl
  unfold Done at h ⊢
  simpa only [hhas, hunits] using h

theorem Sound.dispatched (h : c.Sound)
    (hopen : c.status = some .confirmed ∨ c.status = some .running)
    (hstage : c.stage = some s) (hfresh : ¬ c.Called s u) (hturn : c.Turn s u) :
    (c.dispatch s u).Sound := by
  have hgolden : .goldenThree ≤ s := by
    by_cases hs : s = .goldenThree
    · exact le_of_eq hs.symm
    · exact le_of_lt (h.phased.continued s hstage hs).2.1
  have hcomplete : c.status ≠ some .complete := by
    rcases hopen with hc | hc <;> simp [hc]
  have hunits : ∀ t, (c.dispatch s u).units t = c.units t := by
    intro t
    cases t <;> rfl
  constructor
  · constructor
    · simp [dispatch, hstage]
    · exact h.phased.previewing
    · exact h.phased.continued
    · exact h.phased.packed
    · exact h.phased.complete
  · exact h.queued_dispatch hfresh hturn
  · exact h.works
  · rw [dispatch, List.map_append, List.map_singleton]
    refine List.Nodup.append h.distinct (List.nodup_singleton _) ?_
    rw [List.disjoint_singleton, List.mem_map]
    intro hold
    obtain ⟨⟨t, v, state⟩, hcall, hkey⟩ := hold
    rw [Prod.mk.injEq] at hkey
    obtain ⟨rfl, rfl⟩ := hkey
    exact hfresh ⟨state, hcall⟩
  · intro call hcall
    rcases List.mem_append.mp hcall with hold | hnew
    · exact h.reached call hold
    · rw [List.mem_singleton.mp hnew]
      exact ⟨s, hstage, hgolden, le_refl _⟩
  · intro call hcall hlt
    rw [hunits]
    rcases List.mem_append.mp hcall with hold | hnew
    · exact h.units call hold hlt
    · rw [List.mem_singleton.mp hnew] at hlt ⊢
      rw [Turn, if_neg (ne_of_gt hlt)] at hturn
      obtain ⟨front, back, hlist, -⟩ := hturn
      simp [hlist]
  · intro t ht
    rw [hunits]
    exact h.ordered_dispatch hturn ht
  · intro t ht hthrough
    have hne : t ≠ s := by
      rcases hthrough with ⟨current, hcurrent, hlt⟩ | hc
      · obtain rfl : s = current := Option.some.inj (hstage.symm.trans hcurrent)
        exact ne_of_lt hlt
      · exact absurd hc hcomplete
    exact done_dispatch hne (h.done t ht hthrough)
  · intro hpreview
    refine (h.preview hpreview).trans ?_
    rw [confirmedCount, confirmedCount, dispatch, List.countP_append]
    exact Nat.le_add_right _ _

section Settled

variable {state : StageCallState} {queue : List String}

theorem has_settled (hcall : c.Has s u .dispatched) {t : AnalyzeStage} {v : String}
    {state' : StageCallState} : (c.settled s u state queue).Has t v state' ↔
      if t = s ∧ v = u then state' = state else c.Has t v state' :=
  mem_settle hcall

theorem called_settled (hcall : c.Has s u .dispatched) {t : AnalyzeStage} {v : String} :
    (c.settled s u state queue).Called t v ↔ c.Called t v := by
  simp only [Called, has_settled hcall]
  by_cases hkey : t = s ∧ v = u
  · rw [hkey.1, hkey.2]
    simp only [and_self, if_true, exists_eq, true_iff]
    exact ⟨.dispatched, hcall⟩
  · simp only [if_neg hkey]

/-- The calls that are confirmed stay so. -/
theorem Sound.has_confirmed_settled (h : c.Sound) (hcall : c.Has s u .dispatched)
    {t : AnalyzeStage} {v : String} (hconfirmed : c.Has t v .confirmed) :
    (c.settled s u state queue).Has t v .confirmed := by
  rw [has_settled hcall, if_neg]
  · exact hconfirmed
  · intro hkey
    rw [hkey.1, hkey.2] at hconfirmed
    cases h.unique hcall hconfirmed

/-- The calls of the extraction that are open beside an open one. -/
theorem Sound.alone (h : c.Sound) {v : String} {state' : StageCallState}
    (hcall : c.Has .chapterExtraction u state) (hopen : state ≠ .confirmed)
    (hother : c.Has .chapterExtraction v state') (hopen' : state' ≠ .confirmed) : v = u := by
  rcases h.queued.pending u state hcall hopen with ⟨rest, hqueue⟩ | ⟨-, hfirst⟩
  · rcases h.queued.pending v state' hother hopen' with ⟨rest', hqueue'⟩ | ⟨hempty, -⟩
    · rw [hqueue, List.cons.injEq] at hqueue'
      exact hqueue'.1.symm
    · simp [hqueue] at hempty
  · exact hfirst v ⟨state', hother⟩

theorem Sound.queued_answered (h : c.Sound) (hcall : c.Has s u .dispatched)
    (hqueue : if s = .chapterExtraction then ∀ v ∈ queue, v ≠ u ∧ ¬ c.Has s v .confirmed
      else queue = c.queue) : (c.settled s u .confirmed queue).Queued := by
  by_cases hs : s = .chapterExtraction
  · subst hs
    rw [if_pos rfl] at hqueue
    constructor
    · intro hnone
      exact absurd ((called_settled hcall).mpr ⟨.dispatched, hcall⟩) (hnone u)
    · intro v hv hhas
      rw [has_settled hcall, if_neg fun hkey => (hqueue v hv).1 hkey.2] at hhas
      exact (hqueue v hv).2 hhas
    · intro v state' hhas hopen
      rw [has_settled hcall] at hhas
      by_cases hkey : AnalyzeStage.chapterExtraction = .chapterExtraction ∧ v = u
      · rw [if_pos hkey] at hhas
        exact absurd hhas hopen
      · rw [if_neg hkey] at hhas
        exact absurd ⟨rfl, h.alone hcall (by decide) hhas hopen⟩ hkey
  · rw [if_neg hs] at hqueue
    subst hqueue
    have hhas : ∀ v state', (c.settled s u .confirmed c.queue).Has .chapterExtraction v state' ↔
        c.Has .chapterExtraction v state' := by
      intro v state'
      rw [has_settled hcall, if_neg fun hkey => hs hkey.1.symm]
    constructor
    · intro hnone
      exact h.queued.unstarted fun v hv => hnone v ((called_settled hcall).mpr hv)
    · simp only [hhas]
      exact h.queued.unconfirmed
    · simp only [hhas, called_settled hcall]
      exact h.queued.pending

theorem Sound.queued_unconfirmed (h : c.Sound) (hcall : c.Has s u .dispatched) :
    (c.settled s u .unconfirmed c.queue).Queued where
  unstarted hnone := h.queued.unstarted fun v hv => hnone v ((called_settled hcall).mpr hv)
  unconfirmed v hv hhas := by
    rw [has_settled hcall] at hhas
    by_cases hkey : AnalyzeStage.chapterExtraction = s ∧ v = u
    · rw [if_pos hkey] at hhas
      cases hhas
    · rw [if_neg hkey] at hhas
      exact h.queued.unconfirmed v hv hhas
  pending v state' hhas hopen := by
    simp only [called_settled hcall]
    rw [has_settled hcall] at hhas
    by_cases hkey : AnalyzeStage.chapterExtraction = s ∧ v = u
    · obtain ⟨rfl, rfl⟩ := hkey
      exact h.queued.pending v .dispatched hcall (by decide)
    · rw [if_neg hkey] at hhas
      exact h.queued.pending v state' hhas hopen

theorem Sound.settled (h : c.Sound) (hcall : c.Has s u .dispatched)
    (hqueued : (c.settled s u state queue).Queued) : (c.settled s u state queue).Sound := by
  have hunits : ∀ t, (c.settled s u state queue).units t = c.units t := by
    intro t
    cases t <;> rfl
  have hmem : ∀ call ∈ (c.settled s u state queue).calls, ∃ old ∈ c.calls,
      old.stage = call.stage ∧ old.unit = call.unit := by
    intro call hnew
    obtain ⟨old, hold⟩ := (called_settled hcall).mp ⟨call.state, hnew⟩
    exact ⟨_, hold, rfl, rfl⟩
  constructor
  · constructor
    · intro hnone
      obtain ⟨-, hcalls, -⟩ := h.phased.unstaged hnone
      rw [Has, hcalls] at hcall
      cases hcall
    · exact h.phased.previewing
    · exact h.phased.continued
    · exact h.phased.packed
    · exact h.phased.complete
  · exact hqueued
  · exact h.works
  · rw [Course.settled, keys_settle]
    exact h.distinct
  · intro call hnew
    obtain ⟨old, hold, hstage, -⟩ := hmem call hnew
    rw [← hstage]
    exact h.reached old hold
  · intro call hnew hlt
    obtain ⟨old, hold, hstage, hunit⟩ := hmem call hnew
    rw [hunits, ← hstage, ← hunit]
    exact h.units old hold (hstage ▸ hlt)
  · intro t ht
    rw [hunits]
    apply (h.ordered t ht).imp
    intro v w himp hcalled
    exact h.has_confirmed_settled hcall (himp ((called_settled hcall).mp hcalled))
  · intro t ht hthrough
    have hdone := h.done t ht hthrough
    by_cases hts : t = s
    · subst hts
      cases h.confirmed ht hdone hcall
    · have hhas : ∀ v state', (c.settled s u state queue).Has t v state' ↔ c.Has t v state' := by
        intro v state'
        rw [has_settled hcall, if_neg fun hkey => hts hkey.1]
      unfold Done at hdone ⊢
      simpa only [hhas, hunits] using hdone
  · intro hpreview
    exact (h.preview hpreview).trans (countP_settle_le h.distinct hcall _ _)

end Settled

/-- A commit that leaves the calls and the works alone. -/
theorem Sound.moved (h : c.Sound) (hcalls : d.calls = c.calls) (hworks : d.works = c.works)
    (hqueue : d.queue = c.queue) (hphased : d.Phased)
    (hreached : ∀ s, c.stage = some s → ∃ later, d.stage = some later ∧ s ≤ later)
    (hdone : ∀ s, .chapterExtraction ≤ s →
      (∃ current, d.stage = some current ∧ s < current) ∨ d.status = some .complete → c.Done s)
    (hpreview : d.status = some .pausedGoldenThree ∨
        (∃ s, d.stage = some s ∧ .goldenThree < s) →
      c.works.length ≤ c.confirmedCount .goldenThree) : d.Sound := by
  have hhas : ∀ t v state, d.Has t v state ↔ c.Has t v state := by
    intro t v state
    rw [Has, hcalls, Has]
  have hcalled : ∀ t v, d.Called t v ↔ c.Called t v := by
    intro t v
    simp only [Called, hhas]
  have hunits : ∀ t, d.units t = c.units t := by
    intro t
    cases t <;> simp only [Course.units, hworks]
  constructor
  · exact hphased
  · constructor
    · simp only [hcalled, hqueue]
      exact h.queued.unstarted
    · simp only [hhas, hqueue]
      exact h.queued.unconfirmed
    · simp only [hhas, hcalled, hqueue]
      exact h.queued.pending
  · rw [hworks]
    exact h.works
  · rw [hcalls]
    exact h.distinct
  · intro call hcall
    obtain ⟨s, hs, hlow, hhigh⟩ := h.reached call (hcalls ▸ hcall)
    obtain ⟨later, hlater, hle⟩ := hreached s hs
    exact ⟨later, hlater, hlow, hhigh.trans hle⟩
  · intro call hcall hlt
    rw [hunits]
    exact h.units call (hcalls ▸ hcall) hlt
  · intro s hs
    simp only [hunits, hhas, hcalled]
    exact h.ordered s hs
  · intro s hs hthrough
    have hold := hdone s hs hthrough
    unfold Done at hold ⊢
    simpa only [hhas, hunits] using hold
  · intro hp
    rw [hworks, confirmedCount, hcalls]
    exact hpreview hp

theorem Sound.paused (h : c.Sound) (hopen : c.status = some .confirmed)
    (hdone : c.works.length ≤ c.confirmedCount .goldenThree) :
    Sound { c with status := some .pausedGoldenThree } := by
  have hstage : c.stage = some .goldenThree := by
    cases hc : c.stage with
    | none =>
      have hstatus := (h.phased.unstaged hc).2.2
      simp [hopen] at hstatus
    | some s =>
      by_cases hs : s = .goldenThree
      · rw [hs]
      · have hstatus := (h.phased.continued s hc hs).2.2
        simp [hopen] at hstatus
  have hpacked : c.packed ≠ true := by simp [h.phased.packed, hopen]
  have hauthorized := (h.phased.previewing hstage).1
  refine h.moved rfl rfl rfl ?_ (fun s hs => ⟨s, hs, le_refl _⟩) ?_ fun _ => hdone
  · constructor <;> simp [hstage, hpacked, hauthorized]
  · intro s hs hthrough
    simp only [Option.some.injEq, reduceCtorEq, or_false] at hthrough
    exact h.done s hs (.inl hthrough)

theorem Sound.continued (h : c.Sound) (hpaused : c.status = some .pausedGoldenThree) :
    Sound { c with
      status := some .running, stage := some .chapterExtraction, authorized := true } := by
  have hstage : c.stage = some .goldenThree := by
    cases hc : c.stage with
    | none =>
      have hstatus := (h.phased.unstaged hc).2.2
      simp [hpaused] at hstatus
    | some s =>
      by_cases hs : s = .goldenThree
      · rw [hs]
      · have hstatus := (h.phased.continued s hc hs).2.2
        simp [hpaused] at hstatus
  have hpacked : c.packed ≠ true := by simp [h.phased.packed, hpaused]
  refine h.moved rfl rfl rfl ?_ ?_ ?_ fun _ => h.preview (.inl hpaused)
  · constructor
    · simp
    · simp
    · intro s hs _
      obtain rfl : .chapterExtraction = s := Option.some.inj hs
      exact ⟨rfl, by decide, .inl rfl⟩
    · simp [hpacked]
    · simp
  · intro s hs
    obtain rfl : .goldenThree = s := Option.some.inj (hstage.symm.trans hs)
    exact ⟨_, rfl, by decide⟩
  · intro s hs hthrough
    simp only [Option.some.injEq, reduceCtorEq, or_false, exists_eq_left'] at hthrough
    exact absurd hthrough (not_lt.mpr hs)

theorem Sound.entered (h : c.Sound) (hopen : c.status ≠ some .complete)
    (hstage : c.stage = some s) (hs : .goldenThree < s) (hnext : s.next = some next)
    (hdone : c.Done s) : Sound { c with stage := some next } := by
  have hlt : s < next := by
    rw [AnalyzeStage.lt_iff, AnalyzeStage.ordinal_next hnext]
    exact Nat.lt_succ_self _
  obtain ⟨hauthorized, -, hstatus⟩ := h.phased.continued s hstage (ne_of_gt hs)
  refine h.moved rfl rfl rfl ?_ ?_ ?_ fun _ => h.preview (.inr ⟨s, hstage, hs⟩)
  · constructor
    · simp
    · intro he
      exact absurd (Option.some.inj he) (ne_of_gt (hs.trans hlt))
    · intro t ht _
      obtain rfl : next = t := Option.some.inj ht
      exact ⟨hauthorized, hs.trans hlt, hstatus⟩
    · exact h.phased.packed
    · exact fun hc => absurd hc hopen
  · intro t ht
    obtain rfl : s = t := Option.some.inj (hstage.symm.trans ht)
    exact ⟨next, rfl, le_of_lt hlt⟩
  · intro t ht hthrough
    rcases hthrough with ⟨current, hcurrent, htc⟩ | hc
    · obtain rfl : next = current := Option.some.inj hcurrent
      by_cases hts : t = s
      · rw [hts]
        exact hdone
      · apply h.done t ht
        refine .inl ⟨s, hstage, lt_of_le_of_ne ?_ hts⟩
        rw [AnalyzeStage.lt_iff, AnalyzeStage.ordinal_next hnext] at htc
        exact AnalyzeStage.le_iff.mpr (Nat.le_of_lt_succ htc)
    · exact absurd hc hopen

theorem Sound.resumed (h : c.Sound) (hopen : c.status ≠ some .complete)
    (hstage : c.stage = some s) (hs : .chapterExtraction < s) :
    Sound { c with status := some .running } := by
  have hgolden : .goldenThree < s := lt_trans (by decide) hs
  obtain ⟨hauthorized, -, -⟩ := h.phased.continued s hstage (ne_of_gt hgolden)
  have hpacked : c.packed ≠ true := by
    rw [Ne, h.phased.packed]
    exact hopen
  refine h.moved rfl rfl rfl ?_ (fun s hs => ⟨s, hs, le_refl _⟩) ?_
    fun _ => h.preview (.inr ⟨s, hstage, hgolden⟩)
  · constructor
    · simp [hstage]
    · intro he
      exact absurd (Option.some.inj (hstage.symm.trans he)) (ne_of_gt hgolden)
    · intro t ht hne
      exact ⟨hauthorized, (h.phased.continued t ht hne).2.1, .inl rfl⟩
    · simp [hpacked]
    · simp
  · intro t ht hthrough
    simp only [Option.some.injEq, reduceCtorEq, or_false] at hthrough
    exact h.done t ht (.inl hthrough)

theorem Sound.finished (h : c.Sound) (hstage : c.stage = some .styleProfile)
    (hdone : c.Done .styleProfile) :
    Sound { c with status := some .complete, packed := true } := by
  have hlater : (.goldenThree : AnalyzeStage) < .styleProfile := by decide
  obtain ⟨hauthorized, -, -⟩ := h.phased.continued _ hstage (by decide)
  refine h.moved rfl rfl rfl ?_ (fun s hs => ⟨s, hs, le_refl _⟩) ?_
    fun _ => h.preview (.inr ⟨_, hstage, hlater⟩)
  · constructor
    · simp [hstage]
    · simp [hstage]
    · intro t ht hne
      exact ⟨hauthorized, (h.phased.continued t ht hne).2.1, .inr (.inl rfl)⟩
    · simp
    · exact fun _ => hstage
  · intro t ht _
    by_cases hts : t = .styleProfile
    · rw [hts]
      exact hdone
    · apply h.done t ht
      exact .inl ⟨_, hstage, lt_of_le_of_ne (AnalyzeStage.le_of_next_eq_none rfl) hts⟩

theorem Sound.cancelled (h : c.Sound) (hopen : c.status ≠ some .complete) :
    Sound { c with status := some .cancelled } := by
  have hpacked : c.packed ≠ true := by
    rw [Ne, h.phased.packed]
    exact hopen
  refine h.moved rfl rfl rfl ?_ (fun s hs => ⟨s, hs, le_refl _⟩) ?_ ?_
  · constructor
    · intro hnone
      obtain ⟨hauthorized, hcalls, -⟩ := h.phased.unstaged hnone
      exact ⟨hauthorized, hcalls, .inr (.inr rfl)⟩
    · intro hgolden
      exact ⟨(h.phased.previewing hgolden).1, .inr (.inr rfl)⟩
    · intro t ht hne
      obtain ⟨hauthorized, hlt, -⟩ := h.phased.continued t ht hne
      exact ⟨hauthorized, hlt, .inr (.inr rfl)⟩
    · simp [hpacked]
    · simp
  · intro t ht hthrough
    simp only [Option.some.injEq, reduceCtorEq, or_false] at hthrough
    exact h.done t ht (.inl hthrough)
  · intro hpreview
    simp only [Option.some.injEq, reduceCtorEq, false_or] at hpreview
    exact h.preview (.inr hpreview)

theorem Sound.step (h : c.Sound) (hstep : Step c d) : d.Sound := by
  cases hstep with
  | proposed hnew hworks => exact h.proposed hnew hworks
  | selected hopen hworks => exact h.selected hopen hworks
  | dispatched hopen hstage hfresh hturn => exact h.dispatched hopen hstage hfresh hturn
  | answered hcall hqueue => exact h.settled hcall (h.queued_answered hcall hqueue)
  | unconfirmed hcall => exact h.settled hcall (h.queued_unconfirmed hcall)
  | paused hopen hdone => exact h.paused hopen hdone
  | continued hpaused => exact h.continued hpaused
  | entered hopen hstage hs hnext hdone => exact h.entered hopen hstage hs hnext hdone
  | resumed hopen hstage hs => exact h.resumed hopen hstage hs
  | finished hstage hdone => exact h.finished hstage hdone
  | cancelled hknown hopen => exact h.cancelled hopen

theorem Sound.run (h : c.Sound) (hrun : Relation.ReflTransGen Step c d) : d.Sound := by
  induction hrun with
  | refl => exact h
  | tail _ hstep ih => exact ih.step hstep

end Step

/-! ## The order of the stages -/

/-- The stages behind the first chapters come one after the other, one call at a time. -/
structure InOrder (c : Course) : Prop where
  authorized : ∀ call ∈ c.calls, .goldenThree < call.stage →
    c.authorized = true ∧ c.works.length ≤ c.confirmedCount .goldenThree
  earlier : ∀ call ∈ c.calls, ∀ s, .chapterExtraction ≤ s → s < call.stage → c.Done s
  alone : ∀ call ∈ c.calls, ∀ other ∈ c.calls, .goldenThree < call.stage →
    .goldenThree < other.stage → call.state ≠ .confirmed → other.state ≠ .confirmed →
      call = other
  packed : c.packed = true ↔ c.status = some .complete
  complete : c.packed = true → ∀ s, .chapterExtraction ≤ s → c.Done s

section InOrder

variable {c : Course} {s : AnalyzeStage} {u v : String} {state state' : StageCallState}

theorem chapterExtraction_le (hs : .goldenThree < s) : .chapterExtraction ≤ s := by
  rw [AnalyzeStage.lt_iff] at hs
  exact AnalyzeStage.le_iff.mpr hs

/-- A stage with an open call is the one that the study is at. -/
theorem Sound.stage_of_open (h : c.Sound) (hs : .goldenThree < s) (hcall : c.Has s u state)
    (hopen : state ≠ .confirmed) : c.stage = some s ∧ c.status ≠ some .complete := by
  have hle := chapterExtraction_le hs
  obtain ⟨current, hcurrent, -, hreached⟩ := h.reached _ hcall
  constructor
  · rcases lt_or_eq_of_le hreached with hlt | heq
    · exact absurd (h.confirmed hle (h.done s hle (.inl ⟨current, hcurrent, hlt⟩)) hcall) hopen
    · exact hcurrent.trans (congrArg some heq.symm)
  · intro hcomplete
    exact absurd (h.confirmed hle (h.done s hle (.inr hcomplete)) hcall) hopen

/-- Of two units that are called, the one that comes first is confirmed. -/
theorem Sound.alone_later (h : c.Sound) (hs : .chapterExtraction < s) (hcall : c.Has s u state)
    (hopen : state ≠ .confirmed) (hother : c.Has s v state') (hopen' : state' ≠ .confirmed) :
    u = v := by
  have hu := h.units _ hcall hs
  have hv := h.units _ hother hs
  by_contra hne
  have hsymm : Std.Symm fun v w => (c.Called s w → c.Has s v .confirmed) ∨
      (c.Called s v → c.Has s w .confirmed) := ⟨fun _ _ => Or.symm⟩
  have hordered : (c.units s).Pairwise fun v w => (c.Called s w → c.Has s v .confirmed) ∨
      (c.Called s v → c.Has s w .confirmed) := (h.ordered s hs).imp Or.inl
  rcases hordered.forall hu hv hne with himp | himp
  · exact hopen (h.unique hcall (himp ⟨state', hother⟩))
  · exact hopen' (h.unique hother (himp ⟨state, hcall⟩))

theorem Sound.inOrder (h : c.Sound) : c.InOrder where
  authorized call hcall hlt := by
    obtain ⟨s, hs, -, hle⟩ := h.reached call hcall
    have hlater := lt_of_lt_of_le hlt hle
    exact ⟨(h.phased.continued s hs (ne_of_gt hlater)).1, h.preview (.inr ⟨s, hs, hlater⟩)⟩
  earlier call hcall s hs hlt := by
    obtain ⟨current, hcurrent, -, hle⟩ := h.reached call hcall
    exact h.done s hs (.inl ⟨current, hcurrent, lt_of_lt_of_le hlt hle⟩)
  alone call hcall other hother hlt hlt' hopen hopen' := by
    obtain ⟨s, u, state⟩ := call
    obtain ⟨t, v, state'⟩ := other
    obtain ⟨hs, -⟩ := h.stage_of_open hlt hcall hopen
    obtain ⟨ht, -⟩ := h.stage_of_open hlt' hother hopen'
    obtain rfl : s = t := Option.some.inj (hs.symm.trans ht)
    have hunit : u = v := by
      by_cases hextraction : s = .chapterExtraction
      · subst hextraction
        exact (h.alone hcall hopen hother hopen').symm
      · have hlater : .chapterExtraction < s :=
          lt_of_le_of_ne (chapterExtraction_le hlt) (Ne.symm hextraction)
        exact h.alone_later hlater hcall hopen hother hopen'
    subst hunit
    rw [h.unique hcall hother]
  packed := h.phased.packed
  complete hpacked s hs := h.done s hs (.inr (h.phased.packed.mp hpacked))

end InOrder

/-! ## What is never undone -/

/-- The works can still be chosen. -/
def Selecting (c : Course) : Prop :=
  c.status = none ∨ c.status = some .proposed ∨ c.status = some .confirmed

/-- A course that another one comes to. -/
structure Later (c d : Course) : Prop where
  known : c.status ≠ none → d.status ≠ none ∧ d.works.Sublist c.works
  selected : ¬ c.Selecting → ¬ d.Selecting ∧ d.works = c.works
  stage : ∀ s, c.stage = some s → ∃ later, d.stage = some later ∧ s ≤ later
  calls : (c.calls.map fun call => (call.stage, call.unit)) <+:
    d.calls.map fun call => (call.stage, call.unit)
  settled : ∀ s u state, c.Has s u state → state ≠ .dispatched → d.Has s u state
  authorized : c.authorized = true → d.authorized = true
  complete : c.status = some .complete → d.status = some .complete

section Later

variable {b c d : Course} {s : AnalyzeStage} {u : String} {state : StageCallState}
  {queue : List String}

theorem Later.refl (c : Course) : c.Later c where
  known h := ⟨h, List.Sublist.refl _⟩
  selected h := ⟨h, rfl⟩
  stage s h := ⟨s, h, le_refl s⟩
  calls := List.prefix_rfl
  settled _ _ _ h _ := h
  authorized h := h
  complete h := h

theorem Later.trans (h : b.Later c) (h' : c.Later d) : b.Later d where
  known hb := by
    obtain ⟨hc, hworks⟩ := h.known hb
    obtain ⟨hd, hworks'⟩ := h'.known hc
    exact ⟨hd, hworks'.trans hworks⟩
  selected hb := by
    obtain ⟨hc, hworks⟩ := h.selected hb
    obtain ⟨hd, hworks'⟩ := h'.selected hc
    exact ⟨hd, hworks'.trans hworks⟩
  stage s hs := by
    obtain ⟨t, ht, hst⟩ := h.stage s hs
    obtain ⟨later, hlater, hle⟩ := h'.stage t ht
    exact ⟨later, hlater, hst.trans hle⟩
  calls := h.calls.trans h'.calls
  settled s u state hhas hstate := h'.settled s u state (h.settled s u state hhas hstate) hstate
  authorized hb := h'.authorized (h.authorized hb)
  complete hb := h'.complete (h.complete hb)

/-- A step that leaves the calls alone. -/
theorem later_of_calls (hcalls : d.calls = c.calls)
    (hknown : c.status ≠ none → d.status ≠ none ∧ d.works.Sublist c.works)
    (hselected : ¬ c.Selecting → ¬ d.Selecting ∧ d.works = c.works)
    (hstage : ∀ s, c.stage = some s → ∃ later, d.stage = some later ∧ s ≤ later)
    (hauthorized : c.authorized = true → d.authorized = true)
    (hcomplete : c.status = some .complete → d.status = some .complete) : c.Later d where
  known := hknown
  selected := hselected
  stage := hstage
  calls := by rw [hcalls]
  settled s u state hhas _ := by rwa [Has, hcalls]
  authorized := hauthorized
  complete := hcomplete

theorem later_dispatch (c : Course) (s : AnalyzeStage) (u : String) :
    c.Later (c.dispatch s u) where
  known h := ⟨h, List.Sublist.refl _⟩
  selected h := ⟨h, rfl⟩
  stage s h := ⟨s, h, le_refl s⟩
  calls := by
    rw [dispatch, List.map_append]
    exact List.prefix_append _ _
  settled _ _ _ hhas _ := has_dispatch.mpr (.inl hhas)
  authorized h := h
  complete h := h

theorem Sound.later_settled (h : c.Sound) (hcall : c.Has s u .dispatched) :
    c.Later (c.settled s u state queue) where
  known h := ⟨h, List.Sublist.refl _⟩
  selected h := ⟨h, rfl⟩
  stage s h := ⟨s, h, le_refl s⟩
  calls := by rw [Course.settled, keys_settle]
  settled t v state' hhas hstate := by
    rw [has_settled hcall, if_neg]
    · exact hhas
    · intro hkey
      rw [hkey.1, hkey.2] at hhas
      exact hstate (h.unique hhas hcall)
  authorized h := h
  complete h := h

theorem Sound.later_step (h : c.Sound) (hstep : Step c d) : c.Later d := by
  have hsame : ∀ s, c.stage = some s → ∃ later, c.stage = some later ∧ s ≤ later :=
    fun s hs => ⟨s, hs, le_refl s⟩
  cases hstep with
  | proposed hnew hworks =>
    refine later_of_calls rfl ?_ ?_ hsame id ?_
    · simp [hnew]
    · simp [Selecting, hnew]
    · simp [hnew]
  | selected hopen hworks =>
    refine later_of_calls rfl ?_ ?_ ?_ ?_ ?_
    · exact fun _ => ⟨by simp, hworks⟩
    · intro hselected
      exact absurd (.inr hopen) hselected
    · intro s hs
      exact ⟨s, by simp [hs], le_refl s⟩
    · exact id
    · intro hcomplete
      rcases hopen with hc | hc <;> simp [hcomplete] at hc
  | dispatched hopen hstage hfresh hturn => exact later_dispatch c _ _
  | answered hcall hqueue => exact h.later_settled hcall
  | unconfirmed hcall => exact h.later_settled hcall
  | paused hopen hdone =>
    refine later_of_calls rfl ?_ ?_ hsame id ?_
    · simp
    · simp [Selecting]
    · simp [hopen]
  | continued hpaused =>
    refine later_of_calls rfl ?_ ?_ ?_ ?_ ?_
    · simp
    · simp [Selecting]
    · intro s hs
      by_cases hgolden : s = .goldenThree
      · exact ⟨_, rfl, by rw [hgolden]; decide⟩
      · have hstatus := (h.phased.continued s hs hgolden).2.2
        simp [hpaused] at hstatus
    · simp
    · simp [hpaused]
  | entered hopen hstage hs hnext hdone =>
    refine later_of_calls rfl ?_ ?_ ?_ id id
    · exact fun hknown => ⟨hknown, List.Sublist.refl _⟩
    · exact fun hselected => ⟨hselected, rfl⟩
    · intro t ht
      rw [hstage, Option.some.injEq] at ht
      refine ⟨_, rfl, le_of_lt ?_⟩
      rw [AnalyzeStage.lt_iff, AnalyzeStage.ordinal_next hnext, ht]
      exact Nat.lt_succ_self _
  | resumed hopen hstage hs =>
    refine later_of_calls rfl ?_ ?_ hsame id ?_
    · simp
    · simp [Selecting]
    · exact fun hcomplete => absurd hcomplete hopen
  | finished hstage hdone =>
    refine later_of_calls rfl ?_ ?_ hsame id ?_
    · simp
    · simp [Selecting]
    · simp
  | cancelled hknown hopen =>
    refine later_of_calls rfl ?_ ?_ hsame id ?_
    · simp
    · simp [Selecting]
    · exact fun hcomplete => absurd hcomplete hopen

theorem Sound.later (h : c.Sound) (hrun : Relation.ReflTransGen Step c d) : c.Later d := by
  induction hrun with
  | refl => exact Later.refl c
  | tail hrun hstep ih => exact ih.trans ((h.run hrun).later_step hstep)

end Later

/-! ## Studies at rest -/

/-- No answer is awaited, and nothing is dispatched any more: the study is over, or its extraction
has called units and asks for no more of them. -/
structure Idle (c : Course) : Prop where
  answered : ∀ call ∈ c.calls, call.state ≠ .dispatched
  still : c.status = some .complete ∨ c.status = some .cancelled ∨
    (c.status = some .running ∧ c.stage = some .chapterExtraction ∧ c.queue = [] ∧
      ∃ u, c.Called .chapterExtraction u)

/-- A study at rest can still be cancelled. -/
def Rests (c d : Course) : Prop :=
  d = c ∨ (c.status ≠ some .complete ∧ d = { c with status := some .cancelled })

theorem Rests.trans {b c d : Course} (h : b.Rests c) (h' : c.Rests d) : b.Rests d := by
  rcases h with rfl | ⟨hopen, rfl⟩
  · exact h'
  · rcases h' with rfl | ⟨-, rfl⟩
    · exact .inr ⟨hopen, rfl⟩
    · exact .inr ⟨hopen, rfl⟩

theorem Idle.rests {c d : Course} (h : c.Idle) (hrests : c.Rests d) : d.Idle := by
  rcases hrests with rfl | ⟨-, rfl⟩
  · exact h
  · exact ⟨h.answered, .inr (.inl rfl)⟩

end Course

end Quillframe.Corpus
