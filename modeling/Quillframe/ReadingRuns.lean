import Quillframe.Growth
import Quillframe.Publication

/-!
# Reading order over runs

The rank numbers the chapters of every reachable project by their ordinals. A settlement keeps the
rank of its moment in the canon head and in the tracking record; later chapters of earlier units
move the chapter on, and publication then refuses it.
-/
namespace Quillframe

open Relation Database Json

variable {Fp : Type}

/-! ## The rank and the ordinals -/

/-- The ordinals of the volume, the unit and the chapter. -/
def Database.ordinalsOf (db : Database Fp) (chapterId : String) : Option (ℤ ×ₗ ℤ ×ₗ ℤ) :=
  (db.placeOf chapterId).map fun place =>
    toLex ((ofLex place).1, toLex ((ofLex (ofLex place).2).1,
      (ofLex (ofLex (ofLex place).2).2).1))

section Rank

variable {db : Database Fp}

/-- A position holds one node. -/
theorem Database.Topology.node_eq (h : db.Topology) {a b : StoryNode} (ha : a ∈ db.storyNodes)
    (hb : b ∈ db.storyNodes) (hparent : a.parentId = b.parentId) (hkind : a.kind = b.kind)
    (hordinal : a.ordinal = b.ordinal) : a = b :=
  List.inj_on_of_nodup_map h.positions ha hb (by simp [hparent, hkind, hordinal])

/-- Every volume stands under the one book. -/
theorem Database.Shaped.volume_parent (h : db.Shaped) {a b : StoryNode}
    (ha : a ∈ db.storyNodes) (hb : b ∈ db.storyNodes) (hakind : a.kind = .volume)
    (hbkind : b.kind = .volume) : a.parentId = b.parentId := by
  have hbook : ∀ volume ∈ db.storyNodes, volume.kind = .volume → ∃ book,
      volume.parentId = some book.nodeId ∧
        book ∈ db.storyNodes.filter fun node => node.kind = .book := by
    intro volume hvolume hkind
    obtain ⟨book, hfound, hmem, hbookKind⟩ := h.parents hvolume .book (by rw [hkind]; rfl)
    obtain ⟨parentId, hparent, hlookup⟩ := Option.bind_eq_some_iff.mp hfound
    have hid : book.nodeId = parentId := Table.lookup_key hlookup
    exact ⟨book, by rw [hid, hparent], List.mem_filter.mpr ⟨hmem, by simpa using hbookKind⟩⟩
  obtain ⟨book, hbooks⟩ := List.length_eq_one_iff.mp h.tree.book
  obtain ⟨above, habove, hmem⟩ := hbook a ha hakind
  obtain ⟨above', habove', hmem'⟩ := hbook b hb hbkind
  rw [hbooks, List.mem_singleton] at hmem hmem'
  rw [habove, habove', hmem, hmem']

/-- The ordinals of a chapter are its own. -/
theorem Database.Shaped.ordinalsOf_inj (h : db.Shaped) {a b : String} (ha : a ∈ db.chapterIds)
    (hb : b ∈ db.chapterIds) (hsame : db.ordinalsOf a = db.ordinalsOf b) : a = b := by
  obtain ⟨chapter, unit, volume, hchapter, hkind, hunit, hunitKind, hvolume, hvolumeKind,
    hplace⟩ := h.placed ha
  obtain ⟨chapter', unit', volume', hchapter', hkind', hunit', hunitKind', hvolume',
    hvolumeKind', hplace'⟩ := h.placed hb
  simp only [ordinalsOf, hplace, hplace', Option.map_some, ofLex_toLex, Option.some.injEq,
    EmbeddingLike.apply_eq_iff_eq, Prod.mk.injEq] at hsame
  obtain ⟨hvolumeOrdinal, hunitOrdinal, hordinal⟩ := hsame
  obtain ⟨unitId, hunitId, hunitFound⟩ := Option.bind_eq_some_iff.mp hunit
  obtain ⟨unitId', hunitId', hunitFound'⟩ := Option.bind_eq_some_iff.mp hunit'
  obtain ⟨volumeId, hvolumeId, hvolumeFound⟩ := Option.bind_eq_some_iff.mp hvolume
  obtain ⟨volumeId', hvolumeId', hvolumeFound'⟩ := Option.bind_eq_some_iff.mp hvolume'
  -- from the top: one book, so one volume, one unit and one chapter
  have hvolumes : volume = volume' := h.tree.node_eq (Table.lookup_mem hvolumeFound)
    (Table.lookup_mem hvolumeFound') (h.volume_parent (Table.lookup_mem hvolumeFound)
      (Table.lookup_mem hvolumeFound') hvolumeKind hvolumeKind')
    (hvolumeKind.trans hvolumeKind'.symm) hvolumeOrdinal
  have hvolumeIds : volumeId = volumeId' := by
    rw [← Table.lookup_key hvolumeFound, ← Table.lookup_key hvolumeFound', hvolumes]
  have hunits : unit = unit' := h.tree.node_eq (Table.lookup_mem hunitFound)
    (Table.lookup_mem hunitFound') (by rw [hvolumeId, hvolumeId', hvolumeIds])
    (hunitKind.trans hunitKind'.symm) hunitOrdinal
  have hunitIds : unitId = unitId' := by
    rw [← Table.lookup_key hunitFound, ← Table.lookup_key hunitFound', hunits]
  have hchapters : chapter = chapter' := h.tree.node_eq (Table.lookup_mem hchapter)
    (Table.lookup_mem hchapter') (by rw [hunitId, hunitId', hunitIds])
    (hkind.trans hkind'.symm) hordinal
  rw [← Table.lookup_key hchapter, ← Table.lookup_key hchapter', hchapters]

/-- The rank numbers the chapters from one on, in the order of their ordinals. -/
structure Database.Ranked (db : Database Fp) : Prop where
  range : ∀ chapterId ∈ db.chapterIds,
    1 ≤ db.readingOrder chapterId ∧ db.readingOrder chapterId ≤ db.chapterIds.length
  numbered : ∀ k, 1 ≤ k → k ≤ db.chapterIds.length →
    ∃! chapterId, chapterId ∈ db.chapterIds ∧ db.readingOrder chapterId = k
  ordered : ∀ a ∈ db.chapterIds, ∀ b ∈ db.chapterIds, ∃ x y, db.ordinalsOf a = some x ∧
    db.ordinalsOf b = some y ∧ (db.readingOrder a < db.readingOrder b ↔ x < y)

theorem Database.Shaped.exists_place (h : db.Shaped) {chapterId : String}
    (hchapter : chapterId ∈ db.chapterIds) : ∃ place, db.placeOf chapterId = some place := by
  obtain ⟨_, _, _, -, -, -, -, -, -, hplace⟩ := h.placed hchapter
  exact ⟨_, hplace⟩

theorem Database.Shaped.readingOrder_inj (h : db.Shaped) {a b : String} (ha : a ∈ db.chapterIds)
    (hb : b ∈ db.chapterIds) (hsame : db.readingOrder a = db.readingOrder b) : a = b := by
  obtain ⟨place, hplace⟩ := h.exists_place ha
  obtain ⟨place', hplace'⟩ := h.exists_place hb
  rw [h.readingOrder_eq hplace, h.readingOrder_eq hplace'] at hsame
  have heq := rank_inj (mem_chapterPlaces.mpr ⟨a, ha, hplace⟩)
    (mem_chapterPlaces.mpr ⟨b, hb, hplace'⟩) hsame
  exact placeOf_inj hplace (heq ▸ hplace')

theorem Database.Shaped.readingOrder_lt_iff (h : db.Shaped) {a b : String}
    (hb : b ∈ db.chapterIds) {p q : Place}
    (hp : db.placeOf a = some p) (hq : db.placeOf b = some q) :
    db.readingOrder a < db.readingOrder b ↔ p < q := by
  rw [h.readingOrder_eq hp, h.readingOrder_eq hq, ← not_le, ← not_le,
    rank_le_iff (mem_chapterPlaces.mpr ⟨b, hb, hq⟩)]

theorem Database.Shaped.ranked (h : db.Shaped) : db.Ranked where
  range chapterId hchapter := by
    obtain ⟨place, hplace⟩ := h.exists_place hchapter
    rw [h.readingOrder_eq hplace, ← h.chapterPlaces_length]
    exact ⟨rank_pos (mem_chapterPlaces.mpr ⟨chapterId, hchapter, hplace⟩), rank_le_length⟩
  numbered k hpos hle := by
    obtain ⟨place, hmem, hrank⟩ :=
      exists_rank h.chapterPlaces_nodup hpos (h.chapterPlaces_length ▸ hle)
    obtain ⟨chapterId, hchapter, hplace⟩ := mem_chapterPlaces.mp hmem
    refine ⟨chapterId, ⟨hchapter, (h.readingOrder_eq hplace).trans hrank⟩, ?_⟩
    rintro other ⟨hother, horder⟩
    exact h.readingOrder_inj hother hchapter
      (horder.trans ((h.readingOrder_eq hplace).trans hrank).symm)
  ordered a ha b hb := by
    have hinj := h.ordinalsOf_inj ha hb
    obtain ⟨chapter, unit, volume, -, -, -, -, -, -, hplace⟩ := h.placed ha
    obtain ⟨chapter', unit', volume', -, -, -, -, -, -, hplace'⟩ := h.placed hb
    refine ⟨_, _, by rw [ordinalsOf, hplace]; rfl, by rw [ordinalsOf, hplace']; rfl, ?_⟩
    rw [h.readingOrder_lt_iff hb hplace hplace']
    simp only [ordinalsOf, hplace, hplace', Option.map_some, ofLex_toLex, Option.some.injEq,
      EmbeddingLike.apply_eq_iff_eq, Prod.mk.injEq] at hinj
    simp only [Prod.Lex.toLex_lt_toLex, ofLex_toLex]
    constructor
    · rintro (hlt | ⟨hvolume, hlt | ⟨hunit, hlt | ⟨hchapter, hlt⟩⟩⟩)
      · exact .inl hlt
      · exact .inr ⟨hvolume, .inl hlt⟩
      · exact .inr ⟨hvolume, .inr ⟨hunit, hlt⟩⟩
      · -- equal ordinals are those of one chapter
        rw [hinj ⟨hvolume, hunit, hchapter⟩] at hlt
        exact absurd hlt (lt_irrefl _)
    · rintro (hlt | ⟨hvolume, hlt | ⟨hunit, hlt⟩⟩)
      · exact .inl hlt
      · exact .inr ⟨hvolume, .inl hlt⟩
      · exact .inr ⟨hvolume, .inr ⟨hunit, .inl hlt⟩⟩

/-- The rank grows by the later chapters that stand before. -/
theorem Database.Extends.readingOrder_countP {db' : Database Fp} (h : db.Extends db')
    (hdb : db.Shaped) (hdb' : db'.Shaped) {chapterId : String}
    (hchapter : chapterId ∈ db.chapterIds) {newer : List String}
    (hnewer : db'.chapterIds = db.chapterIds ++ newer) :
    db'.readingOrder chapterId = db.readingOrder chapterId +
      newer.countP fun other => db'.readingOrder other < db'.readingOrder chapterId := by
  obtain ⟨place, hplace⟩ := hdb.exists_place hchapter
  have hplace' := h.placeOf hplace
  have hnodup := hdb'.chapterIds_nodup
  rw [hnewer] at hnodup
  refine (h.readingOrder hdb hdb' hplace hnewer).trans (congrArg _ ?_)
  rw [rank, List.countP_filterMap]
  refine List.countP_congr fun other hother => ?_
  have hotherMem : other ∈ db'.chapterIds := by
    rw [hnewer]
    exact List.mem_append_right _ hother
  obtain ⟨otherPlace, hotherPlace⟩ := hdb'.exists_place hotherMem
  have hchapterMem : chapterId ∈ db'.chapterIds := by
    rw [hnewer]
    exact List.mem_append_left _ hchapter
  -- a later chapter is another one, so it stands before or after
  have hne : otherPlace ≠ place := by
    rintro rfl
    obtain rfl := placeOf_inj hotherPlace hplace'
    exact List.disjoint_of_nodup_append hnodup hchapter hother
  rw [hotherPlace, Option.map_some, Option.getD_some, decide_eq_true_iff, decide_eq_true_iff,
    hdb'.readingOrder_lt_iff hchapterMem hotherPlace hplace', lt_iff_le_and_ne,
    and_iff_left hne]

end Rank

/-! ## What settlements keep -/

section Runs

variable [Sha256 Fp] [DecidableEq Fp] [Documents Fp] [SerdeJson Fp]

/-- The canon head and the tracking record of a chapter hold one rank. -/
structure Database.HoldsRank (db : Database Fp) (row : CanonRow Fp) (chapterId : String)
    (order : ℕ) : Prop where
  key : row.stateKey = chapterRef chapterId
  head : row.value.get? "reading_order" = some (int order)
  record : ∃ tracking record, db.trackingAuthority = [tracking] ∧
    tracking.payload.chapters.get? chapterId = some record ∧ record.readingOrder = order

omit [Documents Fp] in
theorem Database.prepareSettlement_readingOrder {authorization : SettlementAuthorization Fp}
    {preflightUuid : String} {plan : SettlementPlan Fp} {db : Database Fp}
    (h : db.prepareSettlement authorization preflightUuid = .ok plan) :
    plan.readingOrder = db.readingOrder plan.chapterId := by
  simp only [prepareSettlement, bind_eq_ok, require_eq_ok, exists_const, fetch_eq_ok, pure_eq_ok,
    Prod.exists] at h
  obtain ⟨_, -, -, -, _, -, _, -, _, -, _, -, -, _, _, -, _, -, -, _, -, _, -, -, -, _, -, _, -,
    _, -, rfl⟩ := h
  rfl

variable [CollisionFree Fp] {projectId title createdAt : String} {start db db' : Database Fp}

omit [CollisionFree Fp] in
theorem WorkStep.run_shaped (hdb : db.Shaped) (hrun : ReflTransGen WorkStep db db') :
    db'.Shaped ∧ db.Extends db' := by
  induction hrun with
  | refl => exact ⟨hdb, .of_eq rfl⟩
  | tail _ hstep ih =>
    obtain ⟨hshaped, hextends⟩ := ih
    exact ⟨(hstep.shaped hshaped).1, hextends.trans (hstep.shaped hshaped).2⟩

omit [Documents Fp] [CollisionFree Fp] in
/-- A settlement writes the rank of its moment and leaves the other heads and records. -/
theorem Settles.holdsRank {authorization : SettlementAuthorization Fp} {ids : SettlementIds}
    {plan : SettlementPlan Fp} (h : Settles authorization ids plan db db') (hinv : WorkInv db)
    {row : CanonRow Fp} (hrow : row ∈ db'.canonState) :
    db'.HoldsRank row plan.chapterId (db.readingOrder plan.chapterId) ∨
      (row ∈ db.canonState ∧ ∀ chapterId order, db.HoldsRank row chapterId order →
        db'.HoldsRank row chapterId order) := by
  have hprepared := prepareSettlement_eq_ok h.prepared
  obtain ⟨tracking, next, htracking, hpayload, hnext, -, hledger⟩ :=
    commitSettlement_effects hinv.ledger hprepared h.committed
  have hcanon := congrArg Ledger.canonState hledger
  have htracking' := congrArg Ledger.tracking hledger
  have hchapters : next.chapters = tracking.payload.chapters.insert plan.chapterId
      (plan.proposal.record plan.chapterId plan.readingOrder
        plan.preflight.candidateFingerprint) := by
    have hsealed : plan.recorded.Sealed := by
      rw [hprepared.recorded]
      exact TrackingState.refreshFingerprint_sealed _
    obtain ⟨-, -, -, hchapters, -⟩ := TrackingState.invalidate_eq_ok hnext hsealed
    rw [hchapters, hprepared.recorded, hpayload]
    rfl
  have horder := prepareSettlement_readingOrder h.prepared
  have hwritten : ∀ key, key = plan.preflight.targetRef →
      db'.HoldsRank { plan.canonRow authorization.createdAt with stateKey := key }
        plan.chapterId (db.readingOrder plan.chapterId) := by
    rintro _ rfl
    refine ⟨hprepared.target, by rw [← horder]; rfl, _, plan.proposal.record plan.chapterId
      plan.readingOrder plan.preflight.candidateFingerprint, htracking', ?_, horder⟩
    rw [hchapters, OrderedMap.get?_insert_self]
  replace hrow : row ∈ db'.ledger.canonState := hrow
  rw [hcanon] at hrow
  rcases Table.mem_upsert hrow with rfl | ⟨old, -, hkey, rfl⟩ | ⟨hold, hkey⟩
  · exact .inl (hwritten _ rfl)
  · exact .inl (hwritten _ hkey)
  · refine .inr ⟨hold, ?_⟩
    rintro chapterId order ⟨hstateKey, hhead, old, record, hsingle, hrecord, hrecorded⟩
    refine ⟨hstateKey, hhead, _, record, htracking', ?_, hrecorded⟩
    obtain rfl : old = tracking := List.singleton_inj.mp (hsingle.symm.trans htracking)
    have hne : chapterId ≠ plan.chapterId := by
      rintro rfl
      exact hkey (hstateKey.trans hprepared.target.symm)
    rw [hchapters, OrderedMap.get?_insert_of_ne _ hne, hrecord]

/-- A settlement of a chapter, somewhere in a run. -/
structure SettledIn (start db : Database Fp) (chapterId : String) (before after : Database Fp) :
    Prop where
  earlier : ReflTransGen WorkStep start before
  settles : ∃ authorization ids settlementId, authorization.targetRef = chapterRef chapterId ∧
    applySettlement authorization ids before = .ok (settlementId, after)
  later : ReflTransGen WorkStep after db
  chapter : chapterId ∈ before.chapterIds

omit [Documents Fp] [CollisionFree Fp] in
theorem Settles.chapter_mem {authorization : SettlementAuthorization Fp} {ids : SettlementIds}
    {plan : SettlementPlan Fp} (h : Settles authorization ids plan db db') (hinv : WorkInv db)
    (hshaped : db.Shaped) : plan.chapterId ∈ db.chapterIds := by
  have hbacks := (prepareSettlement_backs hinv.archive h.prepared).1
  have hmanuscript : some plan.chapterId ∈ db.manuscriptNodes := by
    rw [manuscriptNodes_archive]
    exact List.mem_map.mpr ⟨_, List.mem_filter.mpr ⟨hbacks.chapter, by simp⟩, rfl⟩
  obtain ⟨chapterId, hchapter, he⟩ := hshaped.tree.manuscripts _ hmanuscript
  rw [Option.some.inj he]
  exact hchapter

/-- Every head was written by a settlement and holds the rank of that moment. -/
theorem WorkStep.run_holdsRank (hstart : createReserved projectId title createdAt = .ok start)
    (hrun : ReflTransGen WorkStep start db) {row : CanonRow Fp} (hrow : row ∈ db.canonState) :
    ∃ chapterId before after, SettledIn start db chapterId before after ∧
      db.HoldsRank row chapterId (before.readingOrder chapterId) := by
  have hshaped : start.Shaped := by
    obtain ⟨-, rfl⟩ := createReserved_eq_ok hstart
    exact initialProject_shaped projectId title createdAt
  induction hrun with
  | refl =>
    obtain ⟨-, rfl⟩ := createReserved_eq_ok hstart
    simp [initialProject] at hrow
  | @tail mid db hrun hstep ih =>
    have hinv := WorkStep.run_workInv hstart hrun
    have hkept : row ∈ mid.canonState →
        (∀ chapterId order, mid.HoldsRank row chapterId order →
          db.HoldsRank row chapterId order) →
        ∃ chapterId before after, SettledIn start db chapterId before after ∧
          db.HoldsRank row chapterId (before.readingOrder chapterId) := by
      intro hold hholds
      obtain ⟨chapterId, before, after, hsettled, hrank⟩ := ih hold
      exact ⟨chapterId, before, after, { hsettled with later := hsettled.later.tail hstep },
        hholds _ _ hrank⟩
    obtain hsame | ⟨authorization, ids, plan, hsettles⟩ := hstep.settles hinv.archive
    · rw [hsame.canon] at hrow
      refine hkept hrow fun chapterId order hrank => { hrank with record := ?_ }
      rw [hsame.tracking]
      exact hrank.record
    · obtain hnew | ⟨hold, hholds⟩ := hsettles.holdsRank hinv hrow
      · have hprepared := prepareSettlement_eq_ok hsettles.prepared
        refine ⟨plan.chapterId, mid, db, ⟨hrun, ⟨authorization, ids, _, ?_, hsettles.apply⟩,
          .refl, hsettles.chapter_mem hinv (WorkStep.run_shaped hshaped hrun).1⟩, hnew⟩
        exact hprepared.targetRef.symm.trans hprepared.target
      · exact hkept hold hholds

omit [Documents Fp] [SerdeJson Fp] [CollisionFree Fp] in
/-- A source is loaded where its head holds the live rank. -/
theorem Database.loadCurrentSource_order {acceptanceId : String} {source : PublicationSource Fp}
    (h : db.loadCurrentSource acceptanceId = .ok source) :
    ∃ row ∈ db.canonState, row.stateKey = chapterRef source.binding.chapterId ∧
      row.value.get? "reading_order" =
        some (int (db.readingOrder source.binding.chapterId)) := by
  simp only [loadCurrentSource, bind_eq_ok, require_eq_ok, exists_const, fetch_eq_ok,
    pure_eq_ok] at h
  obtain ⟨accepted, -, row, hrow, -, order, horder, -, settlement, -, -, hlive, rfl⟩ := h
  refine ⟨row, Table.lookup_mem hrow, Table.lookup_key hrow, ?_⟩
  obtain ⟨value, hvalue, hread⟩ := Option.bind_eq_some_iff.mp horder
  rw [hvalue, hlive]
  cases value with
  | int n =>
    cases n <;> simp_all [asNat]
  | _ => simp [asNat] at hread

/-- In every reachable project the rank numbers the chapters by their ordinals. A canon head and
the tracking record of its chapter hold the rank of the settlement that wrote them; the live rank
is larger by the chapters that were put before since, and publication accepts the chapter only
where there are none. -/
theorem reading_order_of_settlement (hstart : createReserved projectId title createdAt = .ok start)
    (hrun : ReflTransGen WorkStep start db) :
    db.Ranked ∧ ∀ row ∈ db.canonState, ∃ chapterId before after newer,
      SettledIn start db chapterId before after ∧
      db.HoldsRank row chapterId (before.readingOrder chapterId) ∧
      db.chapterIds = before.chapterIds ++ newer ∧
      db.readingOrder chapterId = before.readingOrder chapterId +
        newer.countP (fun other => db.readingOrder other < db.readingOrder chapterId) ∧
      ∀ acceptanceId source, db.loadCurrentSource acceptanceId = .ok source →
        source.binding.chapterId = chapterId →
        ∀ other ∈ newer, ¬ db.readingOrder other < db.readingOrder chapterId := by
  have hshaped : start.Shaped := by
    obtain ⟨-, rfl⟩ := createReserved_eq_ok hstart
    exact initialProject_shaped projectId title createdAt
  have hdb := (WorkStep.run_shaped hshaped hrun).1
  refine ⟨hdb.ranked, fun row hrow => ?_⟩
  obtain ⟨chapterId, before, after, hsettled, hrank⟩ := WorkStep.run_holdsRank hstart hrun hrow
  obtain ⟨authorization, ids, settlementId, -, happly⟩ := hsettled.settles
  have hlater : ReflTransGen WorkStep before db :=
    .head (.settle authorization ids settlementId happly) hsettled.later
  have hbefore := (WorkStep.run_shaped hshaped hsettled.earlier).1
  have hextends := (WorkStep.run_shaped hbefore hlater).2
  obtain ⟨newer, hnewer⟩ := hextends.chapterIds
  have hgrows := hextends.readingOrder_countP hbefore hdb hsettled.chapter hnewer
  refine ⟨chapterId, before, after, newer, hsettled, hrank, hnewer, hgrows, ?_⟩
  rintro acceptanceId source hsource rfl other hother
  -- the head of a loaded source holds the live rank, so nothing was put before
  obtain ⟨head, hhead, hkey, hlive⟩ := loadCurrentSource_order hsource
  have hcanon : (db.canonState.map (·.stateKey)).Nodup :=
    (WorkStep.run_workInv hstart hrun).archive.keys.canon
  obtain rfl := Table.eq_of_key_eq hcanon hhead hrow (hkey.trans hrank.key.symm)
  have hsame : db.readingOrder source.binding.chapterId =
      before.readingOrder source.binding.chapterId := by
    have := hlive.symm.trans hrank.head
    simpa using this
  have hnone := Nat.add_eq_left.mp (hgrows.symm.trans hsame)
  exact of_decide_eq_false (by simpa using List.countP_eq_zero.mp hnone other hother)

end Runs

/-- The sample run with a chapter of the first unit created at its end. -/
theorem Sample.exists_grown : ∃ (db : Database Digest) (row : CanonRow Digest),
    ReflTransGen WorkStep Sample.project db ∧ row ∈ db.canonState ∧
      row.stateKey = chapterRef "CH002" ∧ row.value.get? "reading_order" = some (int 2) ∧
      db.readingOrder "CH002" = 3 := by
  obtain ⟨late, before, authorization, ids, plan, db, hbefore, hsettles, -, -, -, -, -, hmoved⟩ :=
    exists_backwards
  obtain ⟨⟨receipt, receipts, grown⟩, hcreate, hfacts⟩ := map_eq_ok.mp hmoved
  obtain ⟨horder, hcanon⟩ := Prod.mk.inj hfacts
  have hrun := (hbefore.settle authorization ids plan hsettles).steps.tail
    (.chapter _ _ _ _ _ _ _ _ hcreate)
  obtain ⟨row, rest, hrows, hrow, -⟩ := List.map_eq_cons_iff.mp hcanon
  obtain ⟨hkey, hvalue⟩ := Prod.mk.inj hrow
  refine ⟨grown, row, hrun, ?_, hkey, hvalue, horder⟩
  rw [show grown.canonState = row :: rest from hrows]
  exact List.mem_cons_self

/-- A chapter settled as the second one, with a chapter of an earlier unit created since. -/
theorem settled_rank_outdated :
    ∃ (db : Database Digest) (row : CanonRow Digest),
      createReserved "novel" "Harbour" "t0" = .ok Sample.project ∧
      ReflTransGen WorkStep Sample.project db ∧ row ∈ db.canonState ∧
      row.stateKey = chapterRef "CH002" ∧
      row.value.get? "reading_order" ≠ some (int (db.readingOrder "CH002")) := by
  obtain ⟨db, row, hrun, hrow, hkey, hvalue, horder⟩ := Sample.exists_grown
  exact ⟨db, row, Sample.create_project, hrun, hrow, hkey, by rw [hvalue, horder]; simp⟩

theorem reading_order_of_settlement_sample :
    ∃ (db : Database Digest) (row : CanonRow Digest), db.Ranked ∧ row ∈ db.canonState ∧
      db.readingOrder "CH002" = 3 ∧ ∃ chapterId before after newer,
        SettledIn Sample.project db chapterId before after ∧
        db.HoldsRank row chapterId (before.readingOrder chapterId) ∧
        db.chapterIds = before.chapterIds ++ newer := by
  obtain ⟨db, row, hrun, hrow, -, -, horder⟩ := Sample.exists_grown
  obtain ⟨hranked, hheads⟩ := reading_order_of_settlement Sample.create_project hrun
  obtain ⟨chapterId, before, after, newer, hsettled, hrank, hnewer, -⟩ := hheads row hrow
  exact ⟨db, row, hranked, hrow, horder, chapterId, before, after, newer, hsettled, hrank, hnewer⟩

end Quillframe
