import Mathlib.Data.List.Perm.Basic
import QueryMind.SchemaLinker.Linking

namespace QueryMind.SchemaLinker
open Lib Metadata Nlu
set_option autoImplicit true

/-- All that an item or an ambiguity can show of its candidates; only the text that a clear winner
matched is lost. -/
def shown : List LinkCandidate → List LinkCandidate
  | [] => []
  | winner :: others =>
    if (decideAmbiguity (winner :: others)).isConfident then
      { winner with matchedText := "" } :: others
    else winner :: others

def shownBy : LinkedItem ⊕ Ambiguity → List LinkCandidate
  | .inl item => ⟨objectTable item.object, objectColumn item.object, item.confidence,
      item.matchingReason, item.candidateRank, ""⟩ :: item.alternatives
  | .inr ambiguity => ambiguity.candidates

theorem shown_winner (hr : Ranked (winner :: others)) (hw : ClearWinner winner others) :
    shown (winner :: others) = { winner with matchedText := "" } :: others := by
  rw [shown, if_pos ((decideAmbiguity_cons hr).2 hw)]

theorem shown_of_unclear (hr : Ranked candidates)
    (h : ∀ winner others, candidates = winner :: others → ¬ClearWinner winner others) :
    shown candidates = candidates := by
  cases candidates with
  | nil => rfl
  | cons winner others =>
    rw [shown, if_neg]
    intro hd
    exact h winner others rfl ((decideAmbiguity_cons hr).1 hd)

theorem confidence_shown (candidates : List LinkCandidate) :
    (shown candidates).map LinkCandidate.confidence =
      candidates.map LinkCandidate.confidence := by
  cases candidates with
  | nil => rfl
  | cons winner others =>
    rw [shown]
    split
    · rfl
    · rfl

theorem clearWinner_congr {w w' : LinkCandidate} {cs cs' : List LinkCandidate}
    (h : (w :: cs).map LinkCandidate.confidence = (w' :: cs').map LinkCandidate.confidence)
    (hw : ClearWinner w cs) : ClearWinner w' cs' := by
  obtain ⟨h₁, h₂⟩ := List.cons.inj h
  rw [clearWinner_iff] at hw ⊢
  rw [← h₁, ← h₂]
  exact hw

theorem confidence_of_shown (h : shown cs = shown cs') :
    cs.map LinkCandidate.confidence = cs'.map LinkCandidate.confidence := by
  rw [← confidence_shown, h, confidence_shown]

section
variable {database : DatabaseMetadata} {o : Occurrence} {out : LinkedItem ⊕ Ambiguity}

theorem Answers.shownBy_eq (h : Answers database candidates o out) (hr : Ranked candidates) :
    shownBy out = shown candidates := by
  cases out with
  | inl item =>
    obtain ⟨_, winner, others, rfl, hw⟩ := h
    rw [shown_winner hr hw.clear, shownBy, hw.alternatives, hw.confidence, hw.matchingReason,
      hw.candidateRank]
    exact congrArg (· :: others) (by rw [← hw.tableName, ← hw.columnName]; rfl)
  | inr ambiguity =>
    obtain ⟨_, _, hc, hn⟩ := h
    rw [shownBy, hc, shown_of_unclear hr hn]

theorem Answers.congr (h : Answers database candidates o out) (hr : Ranked candidates)
    (hr' : Ranked candidates') (he : shown candidates = shown candidates') :
    Answers database candidates' o out := by
  have hconf := confidence_of_shown he
  cases out with
  | inl item =>
    obtain ⟨ho, winner, others, rfl, hw⟩ := h
    cases candidates' with
    | nil => cases hconf
    | cons winner' others' =>
      have hc' := clearWinner_congr hconf hw.clear
      rw [shown_winner hr hw.clear, shown_winner hr' hc'] at he
      obtain ⟨h₁, h₂⟩ := List.cons.inj he
      obtain ⟨ht, hcol, hcf, hmr, hcr, _⟩ := LinkCandidate.mk.inj h₁
      exact ⟨ho, winner', others', rfl, hc', hw.object, hw.tableName.trans ht,
        hw.columnName.trans hcol, hw.confidence.trans hcf, hw.matchingReason.trans hmr,
        hw.candidateRank.trans hcr, hw.alternatives.trans h₂⟩
  | inr ambiguity =>
    obtain ⟨hb, hk, hc, hn⟩ := h
    have hn' : ∀ winner others, candidates' = winner :: others → ¬ClearWinner winner others := by
      rintro winner others rfl hw
      cases candidates with
      | nil => cases hconf
      | cons winner' others' => exact hn winner' others' rfl (clearWinner_congr hconf.symm hw)
    rw [shown_of_unclear hr hn, shown_of_unclear hr' hn'] at he
    exact ⟨hb, hk, hc.trans he, hn'⟩

end

theorem ranked_scan (m : ConceptMatcher) (l : Lookup) : Ranked (l.scan m) := by
  rw [Lookup.scan]
  cases l.kind with
  | table => exact ranked_rank _
  | column => exact ranked_rank _

/-- The scan that an occurrence is answered from: that of the first occurrence with its key. -/
def servedScan (m : ConceptMatcher) (database : DatabaseMetadata) (os : List Occurrence)
    (o : Occurrence) : List LinkCandidate :=
  (Memo.firstWith (Lookup.cacheKey m) (os.map (·.lookup database)) (o.lookup database)).scan m

theorem Answered.answers (h : Answered g os outs g') :
    List.Forall₂ (fun p out => Answers g.database p.2 p.1 out)
      (os.zip (Memo.consultAll (Lookup.cacheKey g.matcher) (Lookup.scan g.matcher) g.cache
        (os.map (·.lookup g.database))).1) outs := by
  induction h with
  | nil g => exact .nil
  | cons ha _ ih => exact .cons ha ih

theorem Answered.served (h : Answered (.new m database) os outs g') :
    List.Forall₂ (fun o out => Answers database (servedScan m database os o) o out) os outs := by
  have ha := h.answers
  rw [Memo.consultAll_eq, List.map_map] at ha
  have hz (f : Occurrence → List LinkCandidate) :
      os.zip (os.map f) = os.map fun o => (o, f o) := by
    have hm : (os.map id).zip (os.map f) = os.map fun o => (id o, f o) := List.zip_map'
    rw [List.map_id] at hm
    exact hm
  change List.Forall₂ _ (os.zip (os.map fun o => servedScan m database os o)) outs at ha
  rw [hz, List.forall₂_map_left_iff] at ha
  exact ha

theorem afterLinks_answered {g : CandidateGenerator} (hc : g.Current)
    (ht : g.database.tables ≠ []) (contexts : List QueryContext) :
    ∃ outs, Answered g (contexts.flatMap occurrences) outs (afterLinks g contexts) ∧
      (afterLinks g contexts).Current ∧ (afterLinks g contexts).database = g.database := by
  induction contexts generalizing g with
  | nil => exact ⟨[], .nil g, hc, rfl⟩
  | cons context contexts ih =>
    obtain ⟨linked, s, outs, hl, ha, _⟩ := link_adds g hc context ht
    have hd : s.generator.database = g.database := ha.database
    obtain ⟨outs', ha', hc', hd'⟩ := ih ha.current (hd ▸ ht)
    rw [afterLinks, hl]
    exact ⟨outs ++ outs', ha.answered.append ha', hc', hd'.trans hd⟩

/-- Each occurrence is answered from the scan of the first one ever with its key. -/
theorem link_after (m : ConceptMatcher) (database : DatabaseMetadata)
    (earlier : List QueryContext) (context : QueryContext) (ht : database.tables ≠ []) :
    ∃ linked g outs, link (afterLinks (.new m database) earlier) context = .ok (linked, g) ∧
      List.Forall₂ (fun o out => Answers database (servedScan m database
        (earlier.flatMap occurrences ++ occurrences context) o) o out) (occurrences context) outs ∧
      linked.items = itemsOf outs ∧ linked.ambiguities = ambiguitiesOf outs ∧
      linked.relationshipPaths = resolveRelationshipPaths database
        (linked.items.map fun item => objectTable item.object) := by
  obtain ⟨outs₀, ha₀, hc, hd⟩ :=
    afterLinks_answered (CandidateGenerator.current_new m database) ht earlier
  obtain ⟨linked, s, outs, hl, ha, hamb, hpaths⟩ := link_adds _ hc context (hd ▸ ht)
  refine ⟨linked, s.generator, outs, hl, ?_, ha.resolved, ?_, ?_⟩
  · have hs := List.forall₂_drop outs₀.length (ha₀.append ha.answered).served
    rw [List.drop_left, ha₀.length, List.drop_left] at hs
    exact hs
  · rw [hamb, ha.listed, List.nil_append]
  · rw [hpaths, ha.involved, List.nil_append, hd]
    rfl

/-- Tables that differ in the order of their columns alone. -/
structure SameTable (t t' : TableEntry) : Prop where
  name : t.name = t'.name
  synonyms : t.synonyms = t'.synonyms
  columns : t.columns.Perm t'.columns

/-- Schemas that differ in the order of their tables and columns alone. -/
def SameObjects (database database' : DatabaseMetadata) : Prop :=
  ∃ tables, List.Forall₂ SameTable database.tables tables ∧ tables.Perm database'.tables

theorem SameTable.symm (h : SameTable t t') : SameTable t' t :=
  ⟨h.name.symm, h.synonyms.symm, h.columns.symm⟩

theorem SameObjects.symm (h : SameObjects database database') : SameObjects database' database := by
  obtain ⟨tables, hf, hp⟩ := h
  have hf' : List.Forall₂ SameTable tables database.tables :=
    (hf.imp fun _ _ ht => ht.symm).flip
  obtain ⟨tables', hf'', hp'⟩ := List.perm_comp_forall₂ hp.symm hf'
  exact ⟨tables', hf'', hp'⟩

def LinkedItem.choice (item : LinkedItem) :
    Occurrence × String × Option String × Rat × MatchTier × Nat :=
  (item.occurrence, objectTable item.object, objectColumn item.object, item.confidence,
    item.matchingReason, item.candidateRank)

section
variable {m : ConceptMatcher} {database database' : DatabaseMetadata}

theorem tableCandidates_perm (h : SameObjects database database') (concept : String) :
    (tableCandidates m concept database).Perm (tableCandidates m concept database') := by
  obtain ⟨tables, hf, hp⟩ := h
  refine List.Perm.trans ?_ (hp.filterMap _)
  change (database.tables.filterMap _).Perm _
  generalize database.tables = ts at hf
  clear hp
  induction hf with
  | nil => exact .refl _
  | @cons t t' ts ts' ht _ ih =>
    rw [List.filterMap_cons, List.filterMap_cons, tableSearchable, ht.name, ht.synonyms,
      ← tableSearchable]
    cases (m.matchObject concept (tableSearchable t')).map (candidateOf t'.name none) with
    | none => exact ih
    | some c => exact ih.cons c

theorem columnCandidates_perm (h : SameObjects database database') (concept : String) :
    (columnCandidates m concept database).Perm (columnCandidates m concept database') := by
  obtain ⟨tables, hf, hp⟩ := h
  refine List.Perm.trans ?_ (hp.flatMap_right _)
  change (database.tables.flatMap _).Perm _
  generalize database.tables = ts at hf
  clear hp
  induction hf with
  | nil => exact .refl _
  | @cons t t' ts ts' ht _ ih =>
    rw [List.flatMap_cons, List.flatMap_cons, ht.name]
    exact (ht.columns.filterMap _).append ih

theorem ClearWinner.sameObjects (h : SameObjects database database') (l : LookupKind)
    (concept : String) (hs : Lookup.scan m ⟨database, l, concept⟩ = winner :: others)
    (hw : ClearWinner winner others) :
    ∃ others', Lookup.scan m ⟨database', l, concept⟩ = winner :: others' ∧
      ClearWinner winner others' := by
  cases l with
  | table => exact hw.perm (tableCandidates_perm h concept) hs
  | column => exact hw.perm (columnCandidates_perm h concept) hs

theorem Answers.choice_eq (h : SameObjects database database') {l : LookupKind} {concept : String}
    (ha : Answers database (Lookup.scan m ⟨database, l, concept⟩) o out)
    (ha' : Answers database' (Lookup.scan m ⟨database', l, concept⟩) o out') :
    out.getLeft?.map LinkedItem.choice = out'.getLeft?.map LinkedItem.choice := by
  cases out with
  | inl item =>
    obtain ⟨ho, winner, others, hs, hw⟩ := ha
    obtain ⟨others₁, hs₁, hw₁⟩ := hw.clear.sameObjects h l concept hs
    cases out' with
    | inl item' =>
      obtain ⟨ho', winner', others', hs', hw'⟩ := ha'
      rw [hs₁] at hs'
      obtain ⟨rfl, rfl⟩ := List.cons.inj hs'
      refine congrArg some ?_
      rw [LinkedItem.choice, LinkedItem.choice, ho, ho', hw.confidence, hw'.confidence,
        hw.matchingReason, hw'.matchingReason, hw.candidateRank, hw'.candidateRank]
      exact congrArg₂ (fun t c => (o, t, c, winner.confidence, winner.matchingReason,
        winner.candidateRank)) (hw.tableName.trans hw'.tableName.symm)
          (hw.columnName.trans hw'.columnName.symm)
    | inr ambiguity => exact absurd hw₁ (ha'.2.2.2 winner others₁ hs₁)
  | inr ambiguity =>
    cases out' with
    | inl item' =>
      obtain ⟨_, winner, others, hs, hw⟩ := ha'
      obtain ⟨others₁, hs₁, hw₁⟩ := hw.clear.sameObjects h.symm l concept hs
      exact absurd hw₁ (ha.2.2.2 winner others₁ hs₁)
    | inr ambiguity' => rfl

end

def Occurrence.cacheKey (m : ConceptMatcher) (o : Occurrence) : LookupKind × String :=
  (o.lookupKind, m.normalizeConcept o.concept)

/-- The occurrence whose scan an occurrence is answered from. -/
def servedBy (m : ConceptMatcher) (os : List Occurrence) (o : Occurrence) : Occurrence :=
  Memo.firstWith (Occurrence.cacheKey m) os o

theorem servedScan_eq (m : ConceptMatcher) (database : DatabaseMetadata) (os : List Occurrence)
    (o : Occurrence) :
    servedScan m database os o = ((servedBy m os o).lookup database).scan m :=
  congrArg (Lookup.scan m) (Memo.firstWith_map (fun o => Occurrence.lookup o database) os o)

/-- After some links, each concept of a question is resolved or ambiguous on its own candidates,
the same way in every order of the schema, and the tables of the resolved items are connected. -/
structure SettlesConcepts (m : ConceptMatcher) (database : DatabaseMetadata)
    (earlier : List QueryContext) (context : QueryContext) : Prop where
  rejects : database.tables = [] →
    link (afterLinks (.new m database) earlier) context = .error .emptyRegistry
  returns : database.tables ≠ [] →
    ∃ r, link (afterLinks (.new m database) earlier) context = .ok r
  settled : ∀ linked g, link (afterLinks (.new m database) earlier) context = .ok (linked, g) →
    ∃ outs, List.Forall₂ (fun o out => Answers database ((o.lookup database).scan m) o out)
      (occurrences context) outs ∧
        linked.items = itemsOf outs ∧ linked.ambiguities = ambiguitiesOf outs
  orderFree : ∀ database', SameObjects database database' → ∀ linked g linked' g',
    link (afterLinks (.new m database) earlier) context = .ok (linked, g) →
      link (afterLinks (.new m database') earlier) context = .ok (linked', g') →
        linked.items.map LinkedItem.choice = linked'.items.map LinkedItem.choice
  paths : ∀ linked g, link (afterLinks (.new m database) earlier) context = .ok (linked, g) →
    linked.relationshipPaths.isSome = true ∧
      linked.relationshipPaths = resolveRelationshipPaths database
        (linked.items.map fun item => objectTable item.object)

theorem exists_of_forall₂ {R : α → β → Prop} (h : List.Forall₂ R l u) (ha : a ∈ l) :
    ∃ b ∈ u, R a b := by
  induction h with
  | nil => cases ha
  | @cons a' b' l' u' hr _ ih =>
    rcases List.mem_cons.1 ha with rfl | ha
    · exact ⟨b', List.mem_cons_self, hr⟩
    · obtain ⟨b, hb, hab⟩ := ih ha
      exact ⟨b, List.mem_cons_of_mem _ hb, hab⟩

theorem mem_itemsOf : item ∈ itemsOf outs ↔ Sum.inl item ∈ outs := by
  rw [itemsOf, List.mem_filterMap]
  constructor
  · rintro ⟨out, hm, ho⟩
    cases out with
    | inl item' => exact Option.some.inj ho ▸ hm
    | inr ambiguity => cases ho
  · intro h
    exact ⟨_, h, rfl⟩

theorem mem_ambiguitiesOf : ambiguity ∈ ambiguitiesOf outs ↔ Sum.inr ambiguity ∈ outs := by
  rw [ambiguitiesOf, List.mem_filterMap]
  constructor
  · rintro ⟨out, hm, ho⟩
    cases out with
    | inl item => cases ho
    | inr ambiguity' => exact Option.some.inj ho ▸ hm
  · intro h
    exact ⟨_, h, rfl⟩

theorem lookupKind_eq {o o' : Occurrence} (h : o.conceptKind = o'.conceptKind) :
    o.lookupKind = o'.lookupKind := by
  cases o <;> cases o' <;> first | rfl | cases h

section
variable {m : ConceptMatcher} {database : DatabaseMetadata}

theorem shown_own {outs : List (LinkedItem ⊕ Ambiguity)} {os : List Occurrence}
    (h : List.Forall₂ (fun o out => Answers database ((o.lookup database).scan m) o out) os outs)
    (hm : out ∈ outs) (ha : Answers database candidates o out) :
    shownBy out = shown ((o.lookup database).scan m) := by
  obtain ⟨o', _, ha'⟩ := exists_of_forall₂ h.flip hm
  have hshown : shownBy out = shown ((o'.lookup database).scan m) :=
    Answers.shownBy_eq ha' (ranked_scan m _)
  rw [hshown]
  cases out with
  | inl item => rw [← ha.1, ← ha'.1]
  | inr ambiguity =>
    have hk := lookupKind_eq (ha'.2.1.symm.trans ha.2.1)
    rw [Occurrence.lookup, Occurrence.lookup, hk, ← ha'.1, ha.1]

theorem objectTable_mem {object : TableMetadata ⊕ ColumnMetadata} (h : object ∈ objects database) :
    objectTable object ∈ database.tables.map TableEntry.name := by
  rcases List.mem_append.1 h with h | h
  · obtain ⟨table, ht, rfl⟩ := List.mem_map.1 h
    exact List.mem_map.2 ⟨table, ht, rfl⟩
  · obtain ⟨table, ht, hc⟩ := List.mem_flatMap.1 h
    obtain ⟨entry, he, rfl⟩ := List.mem_map.1 hc
    exact List.mem_map.2 ⟨table, ht, (table.owned entry he).symm⟩

theorem resolveRelationshipPaths_isSome {names : List String}
    (h : ∀ name ∈ names, name ∈ database.tables.map TableEntry.name) :
    (resolveRelationshipPaths database names).isSome = true := by
  rw [resolveRelationshipPaths]
  have hu : ∀ name ∈ uniqueTables names, name ∈ database.tables.map TableEntry.name := by
    intro name hn
    exact h name (List.mem_eraseDups.1 hn)
  cases hl : uniqueTables names with
  | nil => rfl
  | cons anchor others =>
    cases others with
    | nil => rfl
    | cons other others =>
      rw [hl] at hu
      obtain ⟨paths, hpaths⟩ := Classical.skolem.1
        (exists_findPath_any database.relationships (hu anchor List.mem_cons_self))
      have hfuel : database.relationships.length + 1 < joinFuel database := Nat.lt_succ_self _
      have hends : ∀ target ∈ other :: others,
          findPath (joinFuel database) database.buildGraph anchor target = some (paths target) :=
        fun target _ => (hpaths target).1 (joinFuel database) hfuel
      exact Option.isSome_iff_exists.2 ⟨_, foldlM_paths hends []⟩

theorem itemsOf_choice {outs outs' : List (LinkedItem ⊕ Ambiguity)}
    (h : List.Forall₂ (fun out out' : LinkedItem ⊕ Ambiguity =>
      out.getLeft?.map LinkedItem.choice = out'.getLeft?.map LinkedItem.choice) outs outs') :
    (itemsOf outs).map LinkedItem.choice = (itemsOf outs').map LinkedItem.choice := by
  induction h with
  | nil => rfl
  | @cons out out' outs outs' ho _ ih =>
    rw [itemsOf_cons, itemsOf_cons, List.map_append, List.map_append, ← toList_map, ← toList_map,
      ho, ih]

theorem forall₂_join {R : α → β → Prop} {S : α → γ → Prop} {T : β → γ → Prop}
    (h : List.Forall₂ R l u) (h' : List.Forall₂ S l v)
    (ht : ∀ a b c, R a b → S a c → T b c) : List.Forall₂ T u v := by
  induction h generalizing v with
  | nil =>
    cases h'
    exact .nil
  | cons hr _ ih =>
    cases h' with
    | cons hs h' => exact .cons (ht _ _ _ hr hs) (ih h')

theorem scan_of_empty (h : database.tables = []) (k : LookupKind) (concept : String) :
    Lookup.scan m ⟨database, k, concept⟩ = [] := by
  cases k with
  | table =>
    rw [Lookup.scan, tableCandidates, h]
    rfl
  | column =>
    rw [Lookup.scan, columnCandidates, h]
    rfl

theorem afterLinks_empty (h : database.tables = []) (contexts : List QueryContext) :
    afterLinks (.new m database) contexts = .new m database := by
  induction contexts with
  | nil => rfl
  | cons context contexts ih =>
    rw [afterLinks, link, CandidateGenerator.new, if_pos h]
    exact ih

theorem link_empty (h : database.tables = []) (earlier : List QueryContext)
    (context : QueryContext) :
    link (afterLinks (.new m database) earlier) context = .error .emptyRegistry := by
  rw [afterLinks_empty h, link, CandidateGenerator.new, if_pos h]

theorem link_eq {context : QueryContext} {earlier : List QueryContext} {g : CandidateGenerator}
    (h : link (afterLinks (.new m database) earlier) context = .ok (linked, g)) :
    ∃ outs, List.Forall₂ (fun o out => Answers database (servedScan m database
        (earlier.flatMap occurrences ++ occurrences context) o) o out) (occurrences context) outs ∧
      linked.items = itemsOf outs ∧ linked.ambiguities = ambiguitiesOf outs ∧
      linked.relationshipPaths = resolveRelationshipPaths database
        (linked.items.map fun item => objectTable item.object) := by
  have ht : database.tables ≠ [] := by
    intro ht
    rw [link_empty ht] at h
    cases h
  obtain ⟨linked', g', outs, hl, ha⟩ := link_after m database earlier context ht
  rw [h] at hl
  obtain ⟨rfl, rfl⟩ := Prod.mk.inj (Except.ok.inj hl)
  exact ⟨outs, ha⟩

theorem SettlesConcepts.served {context : QueryContext} {earlier : List QueryContext}
    (h : SettlesConcepts m database earlier context) (ho : o ∈ occurrences context) :
    shown (servedScan m database (earlier.flatMap occurrences ++ occurrences context) o) =
      shown ((o.lookup database).scan m) := by
  by_cases ht : database.tables = []
  · rw [servedScan_eq, Occurrence.lookup, Occurrence.lookup, scan_of_empty ht, scan_of_empty ht]
  · obtain ⟨⟨linked, g⟩, hl⟩ := h.returns ht
    obtain ⟨outs, ha, hi, hamb, _⟩ := link_eq hl
    obtain ⟨outs', ha', hi', hamb'⟩ := h.settled linked g hl
    obtain ⟨out, hm, hans⟩ := exists_of_forall₂ ha ho
    have hm' : out ∈ outs' := by
      cases out with
      | inl item => rwa [← mem_itemsOf, ← hi', hi, mem_itemsOf]
      | inr ambiguity => rwa [← mem_ambiguitiesOf, ← hamb', hamb, mem_ambiguitiesOf]
    have hr : Ranked (servedScan m database
        (earlier.flatMap occurrences ++ occurrences context) o) := by
      rw [servedScan_eq]
      exact ranked_scan m _
    rw [← hans.shownBy_eq hr, shown_own ha' hm' hans]

theorem SettlesConcepts.of_served {earlier : List QueryContext} {context : QueryContext}
    (h : ∀ o ∈ occurrences context,
      shown (servedScan m database (earlier.flatMap occurrences ++ occurrences context) o) =
        shown ((o.lookup database).scan m)) : SettlesConcepts m database earlier context := by
  refine ⟨fun ht => link_empty ht earlier context, ?_, ?_, ?_, ?_⟩
  · intro ht
    obtain ⟨linked, g, _, hl, _⟩ := link_after m database earlier context ht
    exact ⟨(linked, g), hl⟩
  · intro linked g hl
    obtain ⟨outs, ha, hi, hamb, _⟩ := link_eq hl
    refine ⟨outs, ?_, hi, hamb⟩
    refine ((List.forall₂_and_left _ _).2 ⟨h, ha⟩).imp ?_
    rintro o out ⟨he, hans⟩
    refine hans.congr ?_ (ranked_scan m _) he
    rw [servedScan_eq]
    exact ranked_scan m _
  · intro database' hsame linked g linked' g' hl hl'
    obtain ⟨outs, ha, hi, _⟩ := link_eq hl
    obtain ⟨outs', ha', hi', _⟩ := link_eq hl'
    rw [hi, hi']
    apply itemsOf_choice
    apply forall₂_join ha ha'
    intro o out out' hans hans'
    rw [servedScan_eq] at hans hans'
    exact hans.choice_eq hsame hans'
  · intro linked g hl
    obtain ⟨outs, ha, hi, _, hpaths⟩ := link_eq hl
    refine ⟨?_, hpaths⟩
    rw [hpaths]
    apply resolveRelationshipPaths_isSome
    intro name hname
    obtain ⟨item, hitem, rfl⟩ := List.mem_map.1 hname
    rw [hi, mem_itemsOf] at hitem
    obtain ⟨o, _, hans⟩ := exists_of_forall₂ ha.flip hitem
    obtain ⟨_, _, _, _, hw⟩ := hans
    exact objectTable_mem hw.object

theorem servedBy_prefix {o : Occurrence} (earlier later : List QueryContext)
    (ho : o ∈ occurrences context) :
    servedBy m (earlier.flatMap occurrences ++ occurrences context) o =
      servedBy m ((earlier ++ context :: later).flatMap occurrences) o := by
  rw [List.flatMap_append, List.flatMap_cons, ← List.append_assoc]
  exact (Memo.firstWith_append (List.mem_append_right _ ho) _).symm

/-- Links answer from the first of the occurrences that share a key, so that they settle each on
its own candidates just when these agree in all that is shown of them. -/
theorem settlesConcepts_iff (m : ConceptMatcher) (database : DatabaseMetadata)
    (contexts : List QueryContext) :
    (∀ earlier context later, contexts = earlier ++ context :: later →
        SettlesConcepts m database earlier context) ↔
      ∀ o ∈ contexts.flatMap occurrences, ∀ o' ∈ contexts.flatMap occurrences,
        o.lookupKind = o'.lookupKind →
          m.normalizeConcept o.concept = m.normalizeConcept o'.concept →
            shown ((o.lookup database).scan m) = shown ((o'.lookup database).scan m) := by
  constructor
  · intro h
    have hown : ∀ o ∈ contexts.flatMap occurrences,
        shown (servedScan m database (contexts.flatMap occurrences) o) =
          shown ((o.lookup database).scan m) := by
      intro o ho
      obtain ⟨context, hcontext, ho⟩ := List.mem_flatMap.1 ho
      obtain ⟨earlier, later, hsplit⟩ := List.append_of_mem hcontext
      have hserved := (h earlier context later hsplit).served ho
      rw [servedScan_eq, servedBy_prefix earlier later ho, ← hsplit] at hserved
      rw [servedScan_eq]
      exact hserved
    intro o ho o' ho' hk hn
    have hsame : servedBy m (contexts.flatMap occurrences) o =
        servedBy m (contexts.flatMap occurrences) o' := Memo.firstWith_congr (Prod.ext hk hn) ho
    rw [← hown o ho, ← hown o' ho', servedScan_eq, servedScan_eq, hsame]
  · intro h earlier context later hsplit
    apply SettlesConcepts.of_served
    intro o ho
    have hm : o ∈ contexts.flatMap occurrences := by
      rw [hsplit]
      exact List.mem_flatMap.2 ⟨context, by simp, ho⟩
    have hkey := Memo.key_firstWith (Occurrence.cacheKey m) (contexts.flatMap occurrences) o
    rw [servedScan_eq, servedBy_prefix earlier later ho, ← hsplit]
    exact h _ (Memo.firstWith_mem hm) o hm (Prod.mk.inj hkey).1 (Prod.mk.inj hkey).2

end

def boxTable : TableEntry where
  name := "box"
  description := none
  synonyms := []
  columns := []
  owned _ h := absurd h List.not_mem_nil
  nodup := List.nodup_nil

def boxDatabase : DatabaseMetadata := ⟨[boxTable], [], by decide⟩

def boxContext : QueryContext where
  originalQuestion := "BOXES and boxes"
  normalizedQuestion := "boxes and boxes"
  intent := .select
  primaryEntity := some "BOXES"
  secondaryEntities := ["boxes"]
  businessConcepts := []
  metrics := []
  dimensions := []
  filters := []
  timeExpression := none
  sort := none
  limit := none
  aggregation := none

/-- Alone, `boxes` names the table exactly; after `BOXES` it is ambiguous, with the weak candidate
of that spelling. -/
theorem boxes_not_settled :
    Lookup.scan ⟨Text.lower, listOrder⟩ ⟨boxDatabase, .table, "boxes"⟩ =
        [⟨"box", none, 1, .exact, 1, "box"⟩] ∧
      ((link (.new ⟨Text.lower, listOrder⟩ boxDatabase) boxContext).toOption.map
        fun r => r.1.ambiguities.map fun a => (a.businessConcept, a.candidates)) =
          some [("BOXES", [⟨"box", none, 9 / 20, .fuzzy, 1, "box"⟩]),
            ("boxes", [⟨"box", none, 9 / 20, .fuzzy, 1, "box"⟩])] ∧
      ¬SettlesConcepts ⟨Text.lower, listOrder⟩ boxDatabase [] boxContext := by
  refine ⟨by decide +kernel, by decide +kernel, ?_⟩
  intro h
  have hserved := h.served (o := .entity "boxes") (by decide)
  exact absurd hserved (by decide +kernel)

end QueryMind.SchemaLinker
