import Quillframe.Blocks
import Quillframe.Setup

/-!
# The shape of a long book

An architecture is checked entry by entry. Together the checks make the volumes a list of blocks,
one for each macro part, bind every volume to its climax and account for every arc. That the
terminal climax of a part ends the part is not among the checks.
-/
namespace Quillframe

/-- A loop that rejects what clashes with an entry before leaves entries that do not clash. -/
theorem forEach_pairwise {ε α β : Type} {check : List β → α → Except ε (List β)} {f : α → β}
    {R : β → β → Prop} {P : α → Prop}
    (hstep : ∀ seen a next, check seen a = .ok next →
      P a ∧ (∀ b ∈ seen, R b (f a)) ∧ next = f a :: seen)
    {items : List α} {seen last : List β} (h : forEach check items seen = .ok last) :
    (∀ a ∈ items, P a ∧ ∀ b ∈ seen, R b (f a)) ∧ (items.map f).Pairwise R := by
  induction items generalizing seen with
  | nil => simp
  | cons a rest ih =>
    obtain ⟨next, hnext, hrest⟩ := bind_eq_ok.mp h
    obtain ⟨hP, hapart, rfl⟩ := hstep seen a next hnext
    obtain ⟨hitems, hpairwise⟩ := ih hrest
    constructor
    · intro b hb
      rcases List.mem_cons.mp hb with rfl | hb
      · exact ⟨hP, hapart⟩
      · exact ⟨(hitems b hb).1, fun c hc => (hitems b hb).2 c (List.mem_cons_of_mem _ hc)⟩
    · rw [List.map_cons, List.pairwise_cons]
      refine ⟨?_, hpairwise⟩
      intro b hb
      obtain ⟨item, hitem, rfl⟩ := List.mem_map.mp hb
      exact (hitems item hitem).2 _ List.mem_cons_self

/-! ## Parts and volumes -/

/-- The ordinal of the part that a volume belongs to. -/
def VolumeBlueprintSeed.partOrdinal (parts : List MacroPartSeed) (v : VolumeBlueprintSeed) : ℕ :=
  ((parts.find? fun part => part.partId = v.macroPartId).map (·.ordinal)).getD 0

/-- The capacity of the volumes of a part. -/
def capacityIn (partId : String) (volumes : List VolumeBlueprintSeed) : ℕ :=
  ((volumes.filter fun v => v.macroPartId = partId).map (·.minimumCapacityCharacters)).sum

theorem parts_checked {items : List (MacroPartSeed × ℕ)} {last : List String}
    (h : forEach MacroPartSeed.check items [] = .ok last) :
    (∀ item ∈ items, item.1.ordinal = item.2 + 1) ∧ (items.map (·.1.partId)).Nodup := by
  have hloop := forEach_pairwise (f := fun item : MacroPartSeed × ℕ => item.1.partId)
    (R := fun a b => a ≠ b) (P := fun item => item.1.ordinal = item.2 + 1) ?_ h
  · exact ⟨fun item hitem => (hloop.1 item hitem).1, hloop.2⟩
  · intro seen item next hcheck
    simp only [MacroPartSeed.check, bind_eq_ok, require_eq_ok, exists_const, pure_eq_ok, not_or,
      not_not] at hcheck
    obtain ⟨_, -, ⟨hordinal, -, hfresh⟩, hnext⟩ := hcheck
    exact ⟨hordinal, fun b hb he => hfresh (he ▸ hb), hnext.symm⟩

/-- What a volume passes after the ones before it, and what it adds to the tally. -/
structure VolumeTally.Passes (parts : List MacroPartSeed) (tally : VolumeTally)
    (item : VolumeBlueprintSeed × ℕ) (next : VolumeTally) : Prop where
  part : ∃ part ∈ parts, part.partId = item.1.macroPartId ∧
    part.ordinal = item.1.partOrdinal parts
  ordinal : item.1.ordinal = item.2 + 1
  fresh : item.1.volumeId ∉ tally.volumeIds
  later : tally.lastPartOrdinal ≤ item.1.partOrdinal parts
  bounded : tally.totalCapacity + item.1.minimumCapacityCharacters < 2 ^ 64
  next : next = {
    volumeIds := item.1.volumeId :: tally.volumeIds
    capacityByPart := tally.capacityByPart.insert item.1.macroPartId
      ((tally.capacityByPart.get? item.1.macroPartId).getD 0 + item.1.minimumCapacityCharacters)
    lastPartOrdinal := item.1.partOrdinal parts
    totalCapacity := tally.totalCapacity + item.1.minimumCapacityCharacters }

theorem VolumeBlueprintSeed.check_eq_ok {parts : List MacroPartSeed} {tally next : VolumeTally}
    {item : VolumeBlueprintSeed × ℕ} (h : check parts tally item = .ok next) :
    tally.Passes parts item next := by
  simp only [check, checkedCapacity, bind_eq_ok, fetch_eq_ok, require_eq_ok, exists_const,
    pure_eq_ok, not_or, not_not] at h
  obtain ⟨_, -, part, hpart, ⟨hordinal, -, hfresh, hlater⟩, _, -, _, -, capacity,
    ⟨-, rfl⟩, total, ⟨hbounded, rfl⟩, rfl⟩ := h
  have hfound : part.ordinal = item.1.partOrdinal parts := by simp [partOrdinal, hpart]
  have hid : part.partId = item.1.macroPartId := by simpa using List.find?_some hpart
  refine ⟨⟨part, List.mem_of_find?_eq_some hpart, hid, hfound⟩, hordinal, hfresh, ?_, hbounded, ?_⟩
  · omega
  · rw [hfound]

/-- What the tally says of the volumes that were counted. -/
structure VolumeTally.Counts (parts : List MacroPartSeed) (volumes : List VolumeBlueprintSeed)
    (tally : VolumeTally) : Prop where
  ids : ∀ v ∈ volumes, v.volumeId ∈ tally.volumeIds
  nodup : (volumes.map (·.volumeId)).Nodup
  known : ∀ v ∈ volumes, ∃ part ∈ parts, part.partId = v.macroPartId ∧
    part.ordinal = v.partOrdinal parts
  sorted : volumes.Pairwise fun v w => v.partOrdinal parts ≤ w.partOrdinal parts
  last : ∀ v ∈ volumes, v.partOrdinal parts ≤ tally.lastPartOrdinal
  capacity : ∀ partId, (tally.capacityByPart.get? partId).getD 0 = capacityIn partId volumes
  present : ∀ partId, (tally.capacityByPart.get? partId).isSome →
    ∃ v ∈ volumes, v.macroPartId = partId
  total : tally.totalCapacity = (volumes.map (·.minimumCapacityCharacters)).sum
  bounded : tally.totalCapacity < 2 ^ 64

theorem capacityIn_append (partId : String) (volumes : List VolumeBlueprintSeed)
    (v : VolumeBlueprintSeed) :
    capacityIn partId (volumes ++ [v]) = capacityIn partId volumes +
      if v.macroPartId = partId then v.minimumCapacityCharacters else 0 := by
  by_cases h : v.macroPartId = partId <;> simp [capacityIn, h]

namespace VolumeTally

variable {parts : List MacroPartSeed} {volumes : List VolumeBlueprintSeed}
  {tally next : VolumeTally} {item : VolumeBlueprintSeed × ℕ}

theorem Counts.initial : (⟨[], .empty, 0, 0⟩ : VolumeTally).Counts parts [] where
  ids := by simp
  nodup := by simp
  known := by simp
  sorted := .nil
  last := by simp
  capacity := by simp [capacityIn, OrderedMap.get?, OrderedMap.empty]
  present := by simp [OrderedMap.get?, OrderedMap.empty]
  total := rfl
  bounded := by decide

theorem Counts.step (h : tally.Counts parts volumes) (hpasses : tally.Passes parts item next) :
    next.Counts parts (volumes ++ [item.1]) := by
  obtain ⟨hpart, -, hfresh, hlater, hbounded, rfl⟩ := hpasses
  refine ⟨?_, ?_, ?_, ?_, ?_, ?_, ?_, ?_, hbounded⟩
  · intro v hv
    rcases List.mem_append.mp hv with hold | hnew
    · exact List.mem_cons_of_mem _ (h.ids v hold)
    · simp [List.mem_singleton.mp hnew]
  · rw [List.map_append, List.map_singleton, List.nodup_append]
    refine ⟨h.nodup, List.nodup_singleton _, ?_⟩
    intro id hid other hother he
    obtain ⟨v, hv, rfl⟩ := List.mem_map.mp hid
    apply hfresh
    rw [← List.mem_singleton.mp hother, ← he]
    exact h.ids v hv
  · exact List.forall_mem_append.mpr ⟨h.known, by simpa using hpart⟩
  · apply List.pairwise_append.mpr
    refine ⟨h.sorted, List.pairwise_singleton _ _, ?_⟩
    intro v hv w hw
    rw [List.mem_singleton.mp hw]
    exact (h.last v hv).trans hlater
  · intro v hv
    rcases List.mem_append.mp hv with hold | hnew
    · exact (h.last v hold).trans hlater
    · simp [List.mem_singleton.mp hnew]
  · intro partId
    rw [capacityIn_append, ← h.capacity partId]
    by_cases hid : partId = item.1.macroPartId
    · simp [hid]
    · simp [OrderedMap.get?_insert_of_ne _ hid, Ne.symm hid]
  · intro partId hsome
    by_cases hid : partId = item.1.macroPartId
    · exact ⟨item.1, by simp, hid.symm⟩
    · rw [OrderedMap.get?_insert_of_ne _ hid] at hsome
      obtain ⟨v, hv, hpartId⟩ := h.present partId hsome
      exact ⟨v, List.mem_append_left _ hv, hpartId⟩
  · simp [h.total]

/-- The whole loop over the volumes. -/
theorem counts_of_loop {items : List (VolumeBlueprintSeed × ℕ)} {last : VolumeTally}
    (h : forEach (VolumeBlueprintSeed.check parts) items ⟨[], .empty, 0, 0⟩ = .ok last) :
    last.Counts parts (items.map Prod.fst) ∧ ∀ item ∈ items, item.1.ordinal = item.2 + 1 := by
  have hinv := forEach_remaining (P := fun rest tally => ∃ front, items = front ++ rest ∧
    tally.Counts parts (front.map Prod.fst) ∧ ∀ item ∈ front, item.1.ordinal = item.2 + 1) ?_ h
    ⟨[], rfl, Counts.initial, by simp⟩
  · obtain ⟨front, hfront, hcounts, hordinals⟩ := hinv
    rw [List.append_nil] at hfront
    rw [hfront]
    exact ⟨hcounts, hordinals⟩
  · intro item rest tally next hbefore hcheck
    obtain ⟨front, hfront, hcounts, hordinals⟩ := hbefore
    have hpasses := VolumeBlueprintSeed.check_eq_ok hcheck
    refine ⟨front ++ [item], by simp [hfront], ?_, ?_⟩
    · rw [List.map_append, List.map_singleton]
      exact hcounts.step hpasses
    · exact List.forall_mem_append.mpr ⟨hordinals, by simpa using hpasses.ordinal⟩

end VolumeTally

/-! ## Arcs and climaxes -/

namespace LongFormArchitecture

/-- The place of a volume in the book. -/
def place (volumes : List VolumeBlueprintSeed) (volumeId : String) : ℕ :=
  volumes.findIdx fun v => v.volumeId = volumeId

theorem ordinal_eq_place {volumes : List VolumeBlueprintSeed}
    (hordinals : ∀ item ∈ volumes.zipIdx, item.1.ordinal = item.2 + 1) {volumeId : String}
    {v : VolumeBlueprintSeed} (h : volumes.find? (fun v => v.volumeId = volumeId) = some v) :
    v.ordinal = place volumes volumeId + 1 := by
  obtain ⟨hid, i, hi, hv, hbefore⟩ := List.find?_eq_some_iff_getElem.mp h
  have hplace : place volumes volumeId = i := by
    apply (List.findIdx_eq hi).mpr
    simp only [hv, hid, true_and]
    intro j hj
    simpa using hbefore j hj
  have hmem : (v, i) ∈ volumes.zipIdx := by
    apply List.mk_mem_zipIdx_iff_getElem?.mpr
    rw [List.getElem?_eq_getElem hi, hv]
  rw [hordinals _ hmem, hplace]

theorem milestones_checked {volumes : List VolumeBlueprintSeed}
    (hordinals : ∀ item ∈ volumes.zipIdx, item.1.ordinal = item.2 + 1)
    {milestones : List ArcMilestoneSeed} {previous last : ℕ}
    (h : forEach (NarrativeArcSeed.checkMilestone volumes) milestones previous = .ok last) :
    (∀ m ∈ milestones, m.volumeId ∈ volumes.map (·.volumeId) ∧
      previous ≤ place volumes m.volumeId) ∧
    milestones.Pairwise fun m m' => place volumes m.volumeId < place volumes m'.volumeId := by
  induction milestones generalizing previous with
  | nil => simp
  | cons m rest ih =>
    obtain ⟨next, hnext, hrest⟩ := bind_eq_ok.mp h
    simp only [NarrativeArcSeed.checkMilestone, bind_eq_ok, fetch_eq_ok, require_eq_ok,
      exists_const, pure_eq_ok] at hnext
    obtain ⟨_, -, _, -, v, hfound, hlater, rfl⟩ := hnext
    have hplace := ordinal_eq_place hordinals hfound
    have hid : v.volumeId = m.volumeId := by simpa using List.find?_some hfound
    have hknown : m.volumeId ∈ volumes.map (·.volumeId) :=
      List.mem_map.mpr ⟨v, List.mem_of_find?_eq_some hfound, hid⟩
    obtain ⟨hitems, hpairwise⟩ := ih hrest
    constructor
    · intro m' hm'
      rcases List.mem_cons.mp hm' with rfl | hm'
      · exact ⟨hknown, by omega⟩
      · have hm := hitems m' hm'
        exact ⟨hm.1, by omega⟩
    · rw [List.pairwise_cons]
      refine ⟨?_, hpairwise⟩
      intro m' hm'
      have hm := (hitems m' hm').2
      omega

theorem arcs_checked {volumes : List VolumeBlueprintSeed}
    (hordinals : ∀ item ∈ volumes.zipIdx, item.1.ordinal = item.2 + 1)
    {arcs : List NarrativeArcSeed} {last : List String}
    (h : forEach (NarrativeArcSeed.check volumes) arcs [] = .ok last) :
    (∀ arc ∈ arcs, (∀ m ∈ arc.milestones, m.volumeId ∈ volumes.map (·.volumeId)) ∧
      arc.milestones.Pairwise fun m m' => place volumes m.volumeId < place volumes m'.volumeId) ∧
    (arcs.map (·.arcId)).Nodup := by
  have hloop := forEach_pairwise (f := fun arc : NarrativeArcSeed => arc.arcId)
    (R := fun a b => a ≠ b) (P := fun arc =>
      (∀ m ∈ arc.milestones, m.volumeId ∈ volumes.map (·.volumeId)) ∧
        arc.milestones.Pairwise fun m m' => place volumes m.volumeId < place volumes m'.volumeId)
    ?_ h
  · exact ⟨fun arc harc => (hloop.1 arc harc).1, hloop.2⟩
  · intro seen arc next hcheck
    simp only [NarrativeArcSeed.check, bind_eq_ok, require_eq_ok, exists_const, pure_eq_ok,
      not_or] at hcheck
    obtain ⟨_, -, ⟨hfresh, -⟩, _, hmilestones, hnext⟩ := hcheck
    obtain ⟨hitems, hpairwise⟩ := milestones_checked hordinals hmilestones
    exact ⟨⟨fun m hm => (hitems m hm).1, hpairwise⟩, fun b hb he => hfresh (he ▸ hb), hnext.symm⟩

theorem climaxes_checked {volumeIds arcIds : List String} {chain last : List ClimaxSeed}
    (h : forEach (ClimaxSeed.check volumeIds arcIds) chain [] = .ok last) :
    (∀ c ∈ chain, c.volumeId ∈ volumeIds ∧ ∀ id ∈ c.convergingArcIds, id ∈ arcIds) ∧
    (chain.map (·.climaxId)).Nodup ∧ (chain.map (·.volumeId)).Nodup := by
  have hloop := forEach_pairwise (f := fun c : ClimaxSeed => c)
    (R := fun c d => c.climaxId ≠ d.climaxId ∧ c.volumeId ≠ d.volumeId)
    (P := fun c => c.volumeId ∈ volumeIds ∧ ∀ id ∈ c.convergingArcIds, id ∈ arcIds) ?_ h
  · have hapart := hloop.2
    rw [List.map_id'] at hapart
    refine ⟨fun c hc => (hloop.1 c hc).1, ?_, ?_⟩
    · exact List.pairwise_map.mpr (hapart.imp fun h => h.1)
    · exact List.pairwise_map.mpr (hapart.imp fun h => h.2)
  · intro seen c next hcheck
    simp only [ClimaxSeed.check, bind_eq_ok, require_eq_ok, exists_const, pure_eq_ok, not_or,
      not_not, List.mem_map, not_exists, not_and] at hcheck
    obtain ⟨_, -, ⟨-, hvolume, hclimax, hbound⟩, _, -, harcs, hnext⟩ := hcheck
    exact ⟨⟨hvolume, harcs⟩, fun b hb => ⟨hclimax b hb, hbound b hb⟩, hnext.symm⟩

theorem charms_checked {volumeIds : List String} {charms : List CharacterCharmArcSeed}
    {last : List String} (h : forEach (CharacterCharmArcSeed.check volumeIds) charms [] = .ok last) :
    ∀ charm ∈ charms, ∀ beat ∈ charm.beats, beat.volumeId ∈ volumeIds := by
  have hloop := forEach_pairwise (f := fun charm : CharacterCharmArcSeed => charm.characterId)
    (R := fun _ _ => True)
    (P := fun charm => ∀ beat ∈ charm.beats, beat.volumeId ∈ volumeIds) ?_ h
  · exact fun charm hcharm => (hloop.1 charm hcharm).1
  · intro seen charm next hcheck
    simp only [CharacterCharmArcSeed.check, bind_eq_ok, require_eq_ok, exists_const, pure_eq_ok,
      forEach_unit_eq_ok, CharacterCharmArcSeed.checkBeat] at hcheck
    obtain ⟨_, -, _, -, -, hbeats, -, hnext⟩ := hcheck
    refine ⟨?_, fun _ _ => trivial, hnext.symm⟩
    intro beat hbeat
    obtain ⟨_, -, hknown⟩ := hbeats beat hbeat
    exact hknown

/-! ## The shape -/

/-- The volumes of a macro part, in order. -/
def volumesOf (a : LongFormArchitecture) (part : MacroPartSeed) : List VolumeBlueprintSeed :=
  a.volumes.filter fun v => v.macroPartId = part.partId

def totalCapacity (a : LongFormArchitecture) : ℕ :=
  (a.volumes.map (·.minimumCapacityCharacters)).sum

/-- The arcs that volumes, turns, climaxes and the ending name. -/
def mentionedArcs (a : LongFormArchitecture) : List String :=
  a.volumes.flatMap (fun v => v.activeArcIds ++ v.majorTurns.flatMap (·.advancedArcIds)) ++
    a.climaxChain.flatMap (·.convergingArcIds) ++
    a.fixedEnding.resolvedArcIds ++ a.fixedEnding.intentionallyOpenArcIds

/-- The volumes that milestones, climaxes and charm beats name. -/
def mentionedVolumes (a : LongFormArchitecture) : List String :=
  a.narrativeArcs.flatMap (fun arc => arc.milestones.map (·.volumeId)) ++
    a.climaxChain.map (·.volumeId) ++
    a.characterCharmArcs.flatMap (fun charm => charm.beats.map (·.volumeId))

/-- Parts, volumes, climaxes and arcs that account for each other. -/
structure Shaped (a : LongFormArchitecture) (minimumTotalCharacters : ℕ) : Prop where
  blocks : (a.macroParts.map a.volumesOf).flatten = a.volumes
  nonempty : ∀ part ∈ a.macroParts, a.volumesOf part ≠ []
  capacity : ∀ part ∈ a.macroParts,
    ((a.volumesOf part).map (·.minimumCapacityCharacters)).sum = part.minimumCapacityCharacters
  scale : minimumTotalCharacters ≤ a.totalCapacity
  bounded : a.totalCapacity < 2 ^ 64
  volumeIds : a.volumeIds.Nodup
  climaxIds : (a.climaxChain.map (·.climaxId)).Nodup
  climaxes : (a.climaxChain.map fun c => (c.volumeId, c.climaxId)).Perm
    (a.volumes.map fun v => (v.volumeId, v.climaxId))
  milestones : ∀ arc ∈ a.narrativeArcs, arc.milestones.Pairwise fun m m' =>
    place a.volumes m.volumeId < place a.volumes m'.volumeId
  arcIds : a.arcIds.Nodup
  arcs : (a.fixedEnding.resolvedArcIds ++ a.fixedEnding.intentionallyOpenArcIds).Perm a.arcIds
  knownArcs : ∀ id ∈ a.mentionedArcs, id ∈ a.arcIds
  knownVolumes : ∀ id ∈ a.mentionedVolumes, id ∈ a.volumeIds

/-- Every part ends with its terminal climax as well, and the book with that of the last part. -/
structure Coherent (a : LongFormArchitecture) (minimumTotalCharacters : ℕ) : Prop
    extends a.Shaped minimumTotalCharacters where
  terminal : ∀ part ∈ a.macroParts,
    (a.volumesOf part).getLast?.map (·.climaxId) = some part.terminalClimaxId
  ending : a.macroParts.getLast?.map (·.terminalClimaxId) = some a.fixedEnding.finalClimaxId

/-- No volume of a part stands right behind the volume with the part's terminal climax. -/
def EndsParts (a : LongFormArchitecture) : Prop :=
  ∀ part ∈ a.macroParts, ∀ pair ∈ Blocks.neighbours a.volumes,
    pair.1.macroPartId = part.partId → pair.1.climaxId = part.terminalClimaxId →
      pair.2.macroPartId ≠ part.partId

/-- What the checks say of an accepted architecture, before it is seen as a whole. -/
structure Checked (a : LongFormArchitecture) (minimumTotalCharacters : ℕ) : Prop where
  multiple : a.volumes ≠ []
  partOrdinals : ∀ item ∈ a.macroParts.zipIdx, item.1.ordinal = item.2 + 1
  partIds : (a.macroParts.map (·.partId)).Nodup
  volumes : ∃ tally : VolumeTally, tally.Counts a.macroParts a.volumes ∧
    minimumTotalCharacters ≤ tally.totalCapacity ∧
    ∀ part ∈ a.macroParts,
      tally.capacityByPart.get? part.partId = some part.minimumCapacityCharacters
  arcs : ∀ arc ∈ a.narrativeArcs, (∀ m ∈ arc.milestones, m.volumeId ∈ a.volumeIds) ∧
    arc.milestones.Pairwise fun m m' => place a.volumes m.volumeId < place a.volumes m'.volumeId
  arcIds : a.arcIds.Nodup
  advanced : ∀ v ∈ a.volumes, (∀ id ∈ v.activeArcIds, id ∈ a.arcIds) ∧
    ∀ turn ∈ v.majorTurns, ∀ id ∈ turn.advancedArcIds, id ∈ a.arcIds
  chain : ∀ c ∈ a.climaxChain, c.volumeId ∈ a.volumeIds ∧ ∀ id ∈ c.convergingArcIds, id ∈ a.arcIds
  climaxIds : (a.climaxChain.map (·.climaxId)).Nodup
  climaxVolumeIds : (a.climaxChain.map (·.volumeId)).Nodup
  covered : SameMembers (a.climaxChain.map (·.volumeId)) a.volumeIds
  bound : ∀ v ∈ a.volumes, ∃ c ∈ a.climaxChain, c.climaxId = v.climaxId ∧ c.volumeId = v.volumeId
  terminal : ∀ part ∈ a.macroParts, ∃ v ∈ a.volumes, v.macroPartId = part.partId ∧
    v.climaxId = part.terminalClimaxId
  ending : a.fixedEnding.finalClimaxId = ((a.volumes.getLast?.map (·.climaxId)).getD "")
  resolved : a.fixedEnding.resolvedArcIds.Nodup
  leftOpen : a.fixedEnding.intentionallyOpenArcIds.Nodup
  apart : ∀ id ∈ a.fixedEnding.resolvedArcIds, id ∉ a.fixedEnding.intentionallyOpenArcIds
  accounted : SameMembers
    (a.fixedEnding.resolvedArcIds ++ a.fixedEnding.intentionallyOpenArcIds) a.arcIds
  charms : ∀ charm ∈ a.characterCharmArcs, ∀ beat ∈ charm.beats, beat.volumeId ∈ a.volumeIds

theorem validate_checked {a : LongFormArchitecture} {rollingHorizon minimumTotalCharacters : ℕ}
    (h : a.validate rollingHorizon minimumTotalCharacters = .ok ()) :
    a.Checked minimumTotalCharacters := by
  simp only [validate, bind_eq_ok] at h
  obtain ⟨_, hvolumes, _, harcs, _, hclimaxes, hpolicies⟩ := h
  simp only [validateVolumes, bind_eq_ok, require_eq_ok, exists_const, not_or, not_exists, not_and,
    not_not, not_lt] at hvolumes
  obtain ⟨⟨-, hmultiple⟩, _, hparts, tally, hloop, hscale, hrollup⟩ := hvolumes
  obtain ⟨hpartOrdinals, hpartIds⟩ := parts_checked hparts
  obtain ⟨hcounts, hordinals⟩ := VolumeTally.counts_of_loop hloop
  simp only [validateArcs, bind_eq_ok, require_eq_ok, exists_const] at harcs
  obtain ⟨_, harcLoop, -, hadvanced⟩ := harcs
  obtain ⟨hmilestones, harcIds⟩ := arcs_checked hordinals harcLoop
  simp only [validateClimaxes, bind_eq_ok, require_eq_ok] at hclimaxes
  obtain ⟨_, hchainLoop, hcovered, hbound, hterminal⟩ := hclimaxes
  obtain ⟨hchain, hclimaxIds, hclimaxVolumeIds⟩ := climaxes_checked hchainLoop
  simp only [validatePolicies, FixedEndingSeed.validate, bind_eq_ok, require_eq_ok,
    exists_const] at hpolicies
  obtain ⟨⟨_, -, hresolved, hopen, hapart, haccounted, hending⟩, _, hcharms, -⟩ := hpolicies
  have hfst : a.volumes.zipIdx.map Prod.fst = a.volumes := List.zipIdx_map_fst 0 a.volumes
  have hpartFst : a.macroParts.zipIdx.map (·.1.partId) = a.macroParts.map (·.partId) := by
    rw [show (fun item : MacroPartSeed × ℕ => item.1.partId) =
      (fun part => part.partId) ∘ Prod.fst from rfl, ← List.map_map, List.zipIdx_map_fst]
  have hnonempty : a.volumes ≠ [] := by
    intro hnil
    simp [hnil] at hmultiple
  rw [hfst] at hcounts
  rw [hpartFst] at hpartIds
  exact ⟨hnonempty, hpartOrdinals, hpartIds, ⟨tally, hcounts, hscale, hrollup⟩, hmilestones,
    harcIds, hadvanced, hchain, hclimaxIds, hclimaxVolumeIds, hcovered, hbound,
    fun part hpart => (hterminal part hpart).2, hending, hresolved, hopen, hapart, haccounted,
    charms_checked hcharms⟩

namespace Checked

variable {a : LongFormArchitecture} {minimumTotalCharacters : ℕ}
  (h : a.Checked minimumTotalCharacters)

include h

theorem partOrdinals_sorted : a.macroParts.Pairwise fun p q => p.ordinal < q.ordinal := by
  have hordinal : ∀ i (hi : i < a.macroParts.length), a.macroParts[i].ordinal = i + 1 := by
    intro i hi
    apply h.partOrdinals (a.macroParts[i], i)
    apply List.mk_mem_zipIdx_iff_getElem?.mpr
    rw [List.getElem?_eq_getElem hi]
  apply List.pairwise_iff_getElem.mpr
  intro i j hi hj hij
  rw [hordinal i hi, hordinal j hj]
  omega

/-- A volume names its part by the part's ordinal as well. -/
theorem partOrdinal_iff {v : VolumeBlueprintSeed} (hv : v ∈ a.volumes) {part : MacroPartSeed}
    (hpart : part ∈ a.macroParts) :
    v.macroPartId = part.partId ↔ v.partOrdinal a.macroParts = part.ordinal := by
  obtain ⟨tally, hcounts, -⟩ := h.volumes
  obtain ⟨own, hown, hid, hordinal⟩ := hcounts.known v hv
  constructor
  · intro hsame
    have hpart : own = part :=
      List.inj_on_of_nodup_map h.partIds hown hpart (hid.trans hsame)
    rw [← hordinal, hpart]
  · intro hsame
    have hdistinct : (a.macroParts.map (·.ordinal)).Nodup :=
      List.pairwise_map.mpr (h.partOrdinals_sorted.imp fun h => h.ne)
    have hpart : own = part :=
      List.inj_on_of_nodup_map hdistinct hown hpart (hordinal.trans hsame)
    rw [← hid, hpart]

theorem volumesOf_eq_block {part : MacroPartSeed} (hpart : part ∈ a.macroParts) :
    a.volumesOf part =
      Blocks.block (·.partOrdinal a.macroParts) part.ordinal a.volumes := by
  apply List.filter_congr
  intro v hv
  rw [decide_eq_decide]
  exact h.partOrdinal_iff hv hpart

theorem blocks : (a.macroParts.map a.volumesOf).flatten = a.volumes := by
  obtain ⟨tally, hcounts, -⟩ := h.volumes
  have hkeys : (a.macroParts.map (·.ordinal)).Pairwise (· < ·) :=
    List.pairwise_map.mpr h.partOrdinals_sorted
  have hmem : ∀ v ∈ a.volumes, v.partOrdinal a.macroParts ∈ a.macroParts.map (·.ordinal) := by
    intro v hv
    obtain ⟨part, hpart, -, hordinal⟩ := hcounts.known v hv
    exact List.mem_map.mpr ⟨part, hpart, hordinal⟩
  have hflat := Blocks.flatten_blocks hcounts.sorted hkeys hmem
  rw [List.map_map] at hflat
  rw [List.map_congr_left fun part hpart => h.volumesOf_eq_block hpart]
  exact hflat

theorem nonempty {part : MacroPartSeed} (hpart : part ∈ a.macroParts) : a.volumesOf part ≠ [] := by
  obtain ⟨tally, hcounts, -, hrollup⟩ := h.volumes
  obtain ⟨v, hv, hid⟩ := hcounts.present part.partId (by simp [hrollup part hpart])
  apply List.ne_nil_of_mem (a := v)
  simpa [volumesOf] using ⟨hv, hid⟩

theorem capacity {part : MacroPartSeed} (hpart : part ∈ a.macroParts) :
    ((a.volumesOf part).map (·.minimumCapacityCharacters)).sum =
      part.minimumCapacityCharacters := by
  obtain ⟨tally, hcounts, -, hrollup⟩ := h.volumes
  have hsum := hcounts.capacity part.partId
  rw [hrollup part hpart, Option.getD_some] at hsum
  exact hsum.symm

theorem volumeIds : a.volumeIds.Nodup := by
  obtain ⟨tally, hcounts, -⟩ := h.volumes
  exact hcounts.nodup

/-- Every volume has its climax, and every climax its volume. -/
theorem climaxes : (a.climaxChain.map fun c => (c.volumeId, c.climaxId)).Perm
    (a.volumes.map fun v => (v.volumeId, v.climaxId)) := by
  have hchainNodup : (a.climaxChain.map fun c => (c.volumeId, c.climaxId)).Nodup := by
    apply List.Nodup.of_map Prod.fst
    rw [List.map_map]
    exact h.climaxVolumeIds
  have hvolumesNodup : (a.volumes.map fun v => (v.volumeId, v.climaxId)).Nodup := by
    apply List.Nodup.of_map Prod.fst
    rw [List.map_map]
    exact h.volumeIds
  apply (List.perm_ext_iff_of_nodup hchainNodup hvolumesNodup).mpr
  have hown : ∀ v ∈ a.volumes, ∀ c ∈ a.climaxChain, c.volumeId = v.volumeId →
      c.climaxId = v.climaxId := by
    intro v hv c hc hid
    obtain ⟨own, hownMem, hclimax, hvolume⟩ := h.bound v hv
    have hsame : own = c :=
      List.inj_on_of_nodup_map h.climaxVolumeIds hownMem hc (hvolume.trans hid.symm)
    rw [← hsame, hclimax]
  intro pair
  constructor
  · intro hpair
    obtain ⟨c, hc, rfl⟩ := List.mem_map.mp hpair
    obtain ⟨v, hv, hid⟩ := List.mem_map.mp (h.chain c hc).1
    exact List.mem_map.mpr ⟨v, hv, by rw [hid, hown v hv c hc hid.symm]⟩
  · intro hpair
    obtain ⟨v, hv, rfl⟩ := List.mem_map.mp hpair
    obtain ⟨c, hc, hclimax, hvolume⟩ := h.bound v hv
    exact List.mem_map.mpr ⟨c, hc, by rw [hclimax, hvolume]⟩

/-- Volumes have distinct climaxes. -/
theorem volumeClimaxIds : (a.volumes.map (·.climaxId)).Nodup := by
  have hperm := h.climaxes.map Prod.snd
  rw [List.map_map, List.map_map] at hperm
  exact hperm.nodup_iff.mp h.climaxIds

theorem arcsPerm :
    (a.fixedEnding.resolvedArcIds ++ a.fixedEnding.intentionallyOpenArcIds).Perm a.arcIds := by
  have hnodup : (a.fixedEnding.resolvedArcIds ++ a.fixedEnding.intentionallyOpenArcIds).Nodup := by
    rw [List.nodup_append]
    refine ⟨h.resolved, h.leftOpen, ?_⟩
    intro id hid other hother he
    exact h.apart id hid (he ▸ hother)
  apply (List.perm_ext_iff_of_nodup hnodup h.arcIds).mpr
  intro id
  exact ⟨h.accounted.1 id, h.accounted.2 id⟩

theorem knownArcs : ∀ id ∈ a.mentionedArcs, id ∈ a.arcIds := by
  intro id hid
  simp only [mentionedArcs, List.mem_append, List.mem_flatMap] at hid
  rcases hid with ((⟨v, hv, hactive | ⟨turn, hturn, hadvanced⟩⟩ | ⟨c, hc, hconverging⟩) |
    hresolved) | hopen
  · exact (h.advanced v hv).1 id hactive
  · exact (h.advanced v hv).2 turn hturn id hadvanced
  · exact (h.chain c hc).2 id hconverging
  · exact h.accounted.1 id (List.mem_append_left _ hresolved)
  · exact h.accounted.1 id (List.mem_append_right _ hopen)

theorem knownVolumes : ∀ id ∈ a.mentionedVolumes, id ∈ a.volumeIds := by
  intro id hid
  simp only [mentionedVolumes, List.mem_append, List.mem_flatMap, List.mem_map] at hid
  rcases hid with (⟨arc, harc, m, hm, rfl⟩ | ⟨c, hc, rfl⟩) | ⟨charm, hcharm, beat, hbeat, rfl⟩
  · exact (h.arcs arc harc).1 m hm
  · exact (h.chain c hc).1
  · exact h.charms charm hcharm beat hbeat

/-- The last volume of a part has the terminal climax, unless a volume of the part follows the one
that has it. -/
theorem terminal_of_endsParts (hends : a.EndsParts) {part : MacroPartSeed}
    (hpart : part ∈ a.macroParts) :
    (a.volumesOf part).getLast?.map (·.climaxId) = some part.terminalClimaxId := by
  obtain ⟨tally, hcounts, -⟩ := h.volumes
  obtain ⟨v, hv, hid, hclimax⟩ := h.terminal part hpart
  obtain ⟨front, rest, hsplit⟩ := List.append_of_mem hv
  have hordinal := (h.partOrdinal_iff hv hpart).mp hid
  have hnone : Blocks.block (·.partOrdinal a.macroParts) (v.partOrdinal a.macroParts) rest = [] := by
    by_contra hmore
    obtain ⟨w, more, rfl, hw⟩ := Blocks.next_of_block hcounts.sorted hsplit hmore
    have hpair : (v, w) ∈ Blocks.neighbours a.volumes :=
      Blocks.mem_neighbours.mpr ⟨front, more, hsplit⟩
    have hwmem : w ∈ a.volumes := by simp [hsplit]
    exact hends part hpart (v, w) hpair hid hclimax
      ((h.partOrdinal_iff hwmem hpart).mpr (hw.trans hordinal))
  rw [h.volumesOf_eq_block hpart, hsplit, ← hordinal, ← List.singleton_append, Blocks.block_append,
    Blocks.block_append, hnone]
  simp [Blocks.block, hclimax]

/-- A volume with the terminal climax is the last of its part, so none of the part follows it. -/
theorem endsParts_of_terminal (hterminal : ∀ part ∈ a.macroParts,
    (a.volumesOf part).getLast?.map (·.climaxId) = some part.terminalClimaxId) : a.EndsParts := by
  rintro part hpart ⟨v, w⟩ hpair hid hclimax hw
  dsimp only at hid hclimax hw
  obtain ⟨front, more, hsplit⟩ := Blocks.mem_neighbours.mp hpair
  have hlast := hterminal part hpart
  have hblock : a.volumesOf part = (front.filter fun x => x.macroPartId = part.partId) ++
      v :: w :: more.filter fun x => x.macroPartId = part.partId := by
    rw [volumesOf, hsplit]
    simp [hid, hw]
  set behind := w :: more.filter fun x => x.macroPartId = part.partId with hbehind
  have hne : behind ≠ [] := List.cons_ne_nil _ _
  obtain ⟨last, hgetLast⟩ := Option.ne_none_iff_exists'.mp
    (mt List.getLast?_eq_none_iff.mp hne)
  have hlastMem : last ∈ behind := List.mem_of_getLast? hgetLast
  -- the climaxes of the part's volumes are distinct
  have hdistinct : ((a.volumesOf part).map (·.climaxId)).Nodup :=
    h.volumeClimaxIds.sublist (List.filter_sublist.map _)
  rw [hblock, List.map_append, List.map_cons] at hdistinct
  have hfresh := (List.nodup_cons.mp (List.nodup_append.mp hdistinct).2.1).1
  have hsame : last.climaxId = part.terminalClimaxId := by
    rw [hblock, List.getLast?_append, List.getLast?_cons, hgetLast] at hlast
    simpa using hlast
  apply hfresh
  rw [hclimax, ← hsame]
  exact List.mem_map.mpr ⟨last, hlastMem, rfl⟩

/-- The last part ends where the book ends. -/
theorem ending_of_terminal (hterminal : ∀ part ∈ a.macroParts,
    (a.volumesOf part).getLast?.map (·.climaxId) = some part.terminalClimaxId) :
    a.macroParts.getLast?.map (·.terminalClimaxId) = some a.fixedEnding.finalClimaxId := by
  have hparts : a.macroParts ≠ [] := by
    intro hnil
    have hblocks := h.blocks
    rw [hnil, List.map_nil, List.flatten_nil] at hblocks
    exact h.multiple hblocks.symm
  obtain ⟨front, last, hsplit⟩ := (List.eq_nil_or_concat' a.macroParts).resolve_left hparts
  have hlast : last ∈ a.macroParts := by simp [hsplit]
  obtain ⟨volumes, v, hvolumes⟩ :=
    (List.eq_nil_or_concat' (a.volumesOf last)).resolve_left (h.nonempty hlast)
  have hclimax : v.climaxId = last.terminalClimaxId := by
    have hterm := hterminal last hlast
    simpa [hvolumes] using hterm
  have hend : a.volumes.getLast? = some v := by
    rw [← h.blocks, hsplit]
    simp [hvolumes]
  simp [hsplit, h.ending, hend, hclimax]

end Checked

/-- An accepted architecture has its shape, and it is coherent exactly when no part goes on behind
the volume that has its terminal climax. -/
theorem coherent_iff {a : LongFormArchitecture} {rollingHorizon minimumTotalCharacters : ℕ}
    (haccepted : a.validate rollingHorizon minimumTotalCharacters = .ok ()) :
    a.Shaped minimumTotalCharacters ∧ (a.Coherent minimumTotalCharacters ↔ a.EndsParts) := by
  have h := validate_checked haccepted
  obtain ⟨tally, hcounts, hscale, -⟩ := h.volumes
  have htotal : tally.totalCapacity = a.totalCapacity := hcounts.total
  have hshaped : a.Shaped minimumTotalCharacters := {
    blocks := h.blocks
    nonempty := fun part hpart => h.nonempty hpart
    capacity := fun part hpart => h.capacity hpart
    scale := htotal ▸ hscale
    bounded := htotal ▸ hcounts.bounded
    volumeIds := h.volumeIds
    climaxIds := h.climaxIds
    climaxes := h.climaxes
    milestones := fun arc harc => (h.arcs arc harc).2
    arcIds := h.arcIds
    arcs := h.arcsPerm
    knownArcs := h.knownArcs
    knownVolumes := h.knownVolumes }
  refine ⟨hshaped, ?_⟩
  constructor
  · intro hcoherent
    exact h.endsParts_of_terminal hcoherent.terminal
  · intro hends
    have hterminal : ∀ part ∈ a.macroParts,
        (a.volumesOf part).getLast?.map (·.climaxId) = some part.terminalClimaxId :=
      fun part hpart => h.terminal_of_endsParts hends hpart
    exact ⟨hshaped, hterminal, h.ending_of_terminal hterminal⟩

end LongFormArchitecture

namespace Sample

def majorTurns : List VolumeTurnSeed :=
  VolumeTurnSeed.requiredPhases.map fun phase => ⟨phase, phase, "event", "consequence", ["MAIN"]⟩

def volume (ordinal : ℕ) (volumeId macroPartId climaxId : String) : VolumeBlueprintSeed where
  volumeId := volumeId
  ordinal := ordinal
  macroPartId := macroPartId
  title := "title"
  timeScope := "a year"
  dramaticQuestion := "question"
  entryState := "entry"
  mainPlot := "plot"
  majorTurns := majorTurns
  activeArcIds := ["MAIN", "LOVE"]
  climaxId := climaxId
  irreversibleExitState := "exit"
  nextVolumeHandoff := "handoff"
  minimumCapacityCharacters := 2000000

def arc (arcId : String) (kind : NarrativeArcKind) : NarrativeArcSeed where
  arcId := arcId
  kind := kind
  title := "title"
  participantIds := []
  initialState := "initial"
  terminalState := "terminal"
  milestones := [⟨"V1", "change", "consequence"⟩, ⟨"V3", "change", "consequence"⟩]

def climax (climaxId volumeId : String) : ClimaxSeed where
  climaxId := climaxId
  volumeId := volumeId
  escalationTier := 1
  convergingArcIds := ["MAIN"]
  decisiveChoiceOrAction := "choice"
  irreversibleConsequence := "consequence"
  resultingEquilibrium := "equilibrium"

/-- Three volumes in two parts; the first part has two, and names one climax as terminal. -/
def architecture (terminalClimaxId : String) : LongFormArchitecture where
  macroParts :=
    [⟨"P1", 1, "title", "engine", "role", "entry", "terminal", terminalClimaxId, 4000000⟩,
      ⟨"P2", 2, "title", "engine", "role", "entry", "terminal", "C3", 2000000⟩]
  volumes := [volume 1 "V1" "P1" "C1", volume 2 "V2" "P1" "C2", volume 3 "V3" "P2" "C3"]
  narrativeArcs := [arc "MAIN" .mainPlot, arc "LOVE" .romance, arc "SIDE" .subplot]
  climaxChain := [climax "C1" "V1", climax "C2" "V2", climax "C3" "V3"]
  fixedEnding :=
    ⟨"answer", "choice", "state", "world", "cost", "image", "C3", ["MAIN", "LOVE"], ["SIDE"]⟩
  characterCharmArcs := []
  progressionLadders :=
    [⟨"L1", "rank", ["low", "high"], ["up"]⟩, ⟨"L2", "wealth", ["low", "high"], ["up"]⟩]
  rollingOutlinePolicy := ⟨1, 1, 1, 1⟩
  castEvolutionPolicy := ⟨1, 2, 1, 2, "promotion", "exit", "return"⟩
  repetitionDimensions := ["a", "b", "c", "d", "e", "f", "g", "h"]
  selectiveContextPolicy := ⟨1, ["axis"], true, true⟩
  macroCanonPolicy := ⟨"chapter_execution_only", true, true⟩

end Sample

/-- A part whose terminal climax is that of the first of its two volumes is accepted. -/
theorem part_ends_early :
    (Sample.architecture "C1").validate 3 5000000 = .ok () ∧
      ¬ (Sample.architecture "C1").Coherent 5000000 := by
  have haccepted : (Sample.architecture "C1").validate 3 5000000 = .ok () := by decide +kernel
  refine ⟨haccepted, ?_⟩
  intro hcoherent
  have hlast := hcoherent.terminal _ List.mem_cons_self
  revert hlast
  decide +kernel

theorem coherent_iff_sample : (Sample.architecture "C2").Coherent 5000000 := by
  have haccepted : (Sample.architecture "C2").validate 3 5000000 = .ok () := by decide +kernel
  have hends : (Sample.architecture "C2").EndsParts := by
    rw [LongFormArchitecture.EndsParts]
    decide +kernel
  exact (LongFormArchitecture.coherent_iff haccepted).2.mpr hends

end Quillframe
