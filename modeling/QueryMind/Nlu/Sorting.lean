import QueryMind.Nlu.Vocabulary

namespace QueryMind.Nlu
open Lib Lib.Pattern
set_option autoImplicit true

def superlativePhrases : List (String × SortDirection) :=
  [("highest", .descending), ("most", .descending), ("largest", .descending),
    ("greatest", .descending), ("top", .descending), ("best", .descending),
    ("lowest", .ascending), ("least", .ascending), ("smallest", .ascending),
    ("cheapest", .ascending), ("bottom", .ascending), ("worst", .ascending)]

def isLower (c : Char) : Bool := 'a' ≤ c && c ≤ 'z'

def lowerWord : Pattern (List Char) := do
  let x ← satisfy isLower
  let xs ← greedy isLower
  pure (x :: xs)

def spacedWord : Pattern (List Char) := do
  let s ← satisfy Text.isSpace
  let word ← lowerWord
  pure (s :: word)

def sortField : Pattern (List Char) := do
  let word ← lowerWord
  let words ← upToLazily 3 spacedWord
  pure (word ++ words)

def directionWords : List String := ["ascending", "asc", "descending", "desc"]

def directionWord : Pattern String := do
  blanks
  anyOf (directionWords.map fun d => do
    literal d.toList
    pure d)

def sortVerb : Pattern Unit := or
  (do literal "sort".toList; upTo 1 (literal "ed".toList))
  (do literal "order".toList; upTo 1 (literal "ed".toList))

def explicitPattern (w : WordClass) : Pattern (List Char × Option String) := do
  sortVerb
  blanks
  literal "by".toList
  blanks
  let field ← sortField
  let direction ← atMostOnce directionWord
  boundary w
  pure (field, direction)

def directionOf (direction : Option String) : SortDirection :=
  if direction = some "asc" ∨ direction = some "ascending" then .ascending else .descending

/-- `at most` and `at least` are thresholds of filters. -/
def superlativePattern (w : WordClass) (phrase : String) : Pattern Unit :=
  if phrase = "most" ∨ phrase = "least" then do
    notBehind "at ".toList
    phrasePattern w phrase
  else phrasePattern w phrase

def firstSuperlative (w : WordClass) (text : List Char) (metric : MetricExpression) :
    List (String × SortDirection) → Option SortExpression
  | [] => none
  | (phrase, direction) :: phrases =>
    match search (superlativePattern w phrase) text with
    | some m => some ⟨metric.name, direction, .ofList m.text⟩
    | none => firstSuperlative w text metric phrases

/-- The sort that a question states, on the first metric where its field is not known. -/
def explicitSort (w : WordClass) (text : List Char) (metrics : List MetricExpression) :
    Option SortExpression := do
  let m ← search (explicitPattern w) text
  let field ← (resolveField m.value.1).or (metrics.head?.map MetricExpression.name)
  return ⟨field, directionOf m.value.2, .ofList m.text⟩

def extractSort (w : WordClass) (question : String) (metrics : List MetricExpression) :
    Option SortExpression :=
  (explicitSort w question.toList metrics).or (metrics.head?.bind fun metric =>
    firstSuperlative w question.toList metric (byLength superlativePhrases))

def sortVerbs : List String := ["sort", "sorted", "order", "ordered"]

theorem first_stem {f : Unit → Pattern β} (hs : s = [] ∨ s = ['e', 'd'])
    (hr : rest.head? = some ' ')
    (h : first (f ()) ⟨(stem ++ s).reverse ++ behind, rest⟩ = some r) :
    first ((literal stem >>= fun _ => upTo 1 (literal "ed".toList)) >>= f)
      ⟨behind, stem ++ (s ++ rest)⟩ = some r := by
  have hed : "ed".toList = ['e', 'd'] := rfl
  rw [bind_assoc, first_literal_bind, if_pos (List.prefix_append _ _), List.take_left,
    List.drop_left, Pattern.upTo, first_or_bind, bind_assoc, first_literal_bind, first_pure_bind,
    hed]
  rcases hs with rfl | rfl
  · have hn : ¬ ['e', 'd'] <+: [] ++ rest := by
      intro hp
      obtain ⟨t, ht⟩ := hp
      rw [List.nil_append] at ht
      rw [← ht] at hr
      cases hr
    rw [List.append_nil] at h
    rw [if_neg hn]
    exact h
  · rw [if_pos (List.prefix_append _ _), Pattern.upTo, first_pure_bind]
    rw [List.reverse_append, List.append_assoc] at h
    show (first (f ()) ⟨['e', 'd'].reverse ++ (stem.reverse ++ behind), rest⟩).or _ = _
    rw [h]
    rfl

theorem first_sortVerb {f : Unit → Pattern β} (hverb : verb ∈ sortVerbs)
    (hr : rest.head? = some ' ')
    (h : first (f ()) ⟨verb.toList.reverse ++ behind, rest⟩ = some r) :
    first (sortVerb >>= f) ⟨behind, verb.toList ++ rest⟩ = some r := by
  have hsort (s : List Char) (hs : s = [] ∨ s = ['e', 'd'])
      (hv : verb.toList = "sort".toList ++ s) :
      first (sortVerb >>= f) ⟨behind, verb.toList ++ rest⟩ = some r := by
    rw [hv] at h
    rw [sortVerb, first_or_bind, hv, List.append_assoc, first_stem hs hr h]
    rfl
  have horder (s : List Char) (hs : s = [] ∨ s = ['e', 'd'])
      (hv : verb.toList = "order".toList ++ s) :
      first (sortVerb >>= f) ⟨behind, verb.toList ++ rest⟩ = some r := by
    have hn : ¬ "sort".toList <+: "order".toList ++ (s ++ rest) := by
      intro hp
      obtain ⟨t, ht⟩ := hp
      cases ht
    rw [hv] at h
    rw [sortVerb, first_or_bind, hv, List.append_assoc, first_stem hs hr h, bind_assoc,
      first_literal_bind, if_neg hn]
    rfl
  simp only [sortVerbs, List.mem_cons, List.not_mem_nil, or_false] at hverb
  rcases hverb with rfl | rfl | rfl | rfl
  · exact hsort [] (.inl rfl) rfl
  · exact hsort ['e', 'd'] (.inr rfl) rfl
  · exact horder [] (.inl rfl) rfl
  · exact horder ['e', 'd'] (.inr rfl) rfl

theorem isAlphanum_of_isLower (h : isLower c = true) : c.isAlphanum = true := by
  obtain ⟨ha, hz⟩ := Bool.and_eq_true_iff.1 h
  have hl : c.isLower = true :=
    Bool.and_eq_true_iff.2
      ⟨decide_eq_true (of_decide_eq_true ha), decide_eq_true (of_decide_eq_true hz)⟩
  show (c.isUpper || c.isLower || c.isDigit) = true
  rw [hl, Bool.or_true, Bool.true_or]

theorem isWord_of_isLower (w : WordClass) (h : isLower c = true) : w.isWord c = true := by
  have hz : c ≤ 'z' := of_decide_eq_true (Bool.and_eq_true_iff.1 h).2
  have hn : c.toNat ≤ 'z'.toNat := hz
  have h122 : 'z'.toNat = 122 := rfl
  rw [w.ascii c (by omega), isAlphanum_of_isLower h, Bool.true_or]

theorem isLower_of_isSpace (h : Text.isSpace c = true) : isLower c = false := by
  rw [← Bool.not_eq_true]
  intro hl
  have ha := Text.isAlphanum_of_isSpace h
  rw [isAlphanum_of_isLower hl] at ha
  cases ha

theorem isSpace_of_isLower (h : isLower c = true) : Text.isSpace c = false := by
  rw [← Bool.not_eq_true]
  intro hs
  rw [isLower_of_isSpace hs] at h
  cases h

theorem first_lowerWord {f : List Char → Pattern β} (hne : word ≠ [])
    (hl : ∀ c ∈ word, isLower c = true) (hr : rest.head? = some ' ')
    (h : first (f word) ⟨word.reverse ++ behind, rest⟩ = some r) :
    first (lowerWord >>= f) ⟨behind, word ++ rest⟩ = some r := by
  obtain ⟨x, xs, rfl⟩ := List.exists_cons_of_ne_nil hne
  rw [List.reverse_cons, List.append_assoc, List.singleton_append] at h
  rw [lowerWord, bind_assoc, List.cons_append, first_satisfy_bind,
    if_pos (hl x List.mem_cons_self), bind_assoc]
  apply first_greedy_run (fun c hc => hl c (List.mem_cons_of_mem x hc))
  · rw [hr]
    rfl
  · rw [first_pure_bind]
    exact h

/-- What follows the first word of the field, where the field ends there. -/
def sortEnd (w : WordClass) (field : List Char) : Pattern (List Char × Option String) :=
  atMostOnce directionWord >>= fun direction => boundary w >>= fun _ => pure (field, direction)

theorem head_of_lower (hne : word ≠ []) (hl : ∀ c ∈ word, isLower c = true) (rest : List Char) :
    (word ++ rest).head?.any Text.isSpace = false := by
  obtain ⟨x, xs, rfl⟩ := List.exists_cons_of_ne_nil hne
  exact isSpace_of_isLower (hl x List.mem_cons_self)

theorem first_explicit (hverb : verb ∈ sortVerbs) (hne : word ≠ [])
    (hl : ∀ c ∈ word, isLower c = true) (hr : rest.head? = some ' ')
    (h : first (sortEnd w word)
      ⟨word.reverse ++ (' ' :: 'y' :: 'b' :: ' ' :: (verb.toList.reverse ++ behind)), rest⟩ =
        some r) :
    first (explicitPattern w)
      ⟨behind, verb.toList ++ (' ' :: 'b' :: 'y' :: ' ' :: (word ++ rest))⟩ = some r := by
  have hby : "by".toList = ['b', 'y'] := rfl
  have hp : ['b', 'y'] <+: 'b' :: 'y' :: ' ' :: (word ++ rest) := List.prefix_append ['b', 'y'] _
  rw [explicitPattern]
  apply first_sortVerb hverb rfl
  rw [blanks, first_plus_single _ rfl rfl, hby, first_literal_bind, if_pos hp]
  show first (plus Text.isSpace >>= _)
    ⟨'y' :: 'b' :: ' ' :: (verb.toList.reverse ++ behind), ' ' :: (word ++ rest)⟩ = _
  rw [first_plus_single _ rfl (head_of_lower hne hl rest), sortField, bind_assoc]
  apply first_lowerWord hne hl hr
  rw [bind_assoc, upToLazily, first_or_bind, first_pure_bind, first_pure_bind, List.append_nil]
  show (first (sortEnd w word) _).or _ = _
  rw [h]
  rfl

theorem first_word (x : String) (f : String → Pattern β) (behind text : List Char) :
    first ((literal x.toList >>= fun _ => pure x) >>= f) ⟨behind, text⟩ =
      if x.toList <+: text then
        first (f x) ⟨(text.take x.toList.length).reverse ++ behind, text.drop x.toList.length⟩
      else none := by
  rw [bind_assoc, first_literal_bind, first_pure_bind]

theorem first_directionWord (f : String → Pattern β) (hy : text.head?.any Text.isSpace = false) :
    first (directionWord >>= f) ⟨behind, ' ' :: text⟩ =
      directionWords.findSome? fun x =>
        first ((literal x.toList >>= fun _ => pure x) >>= f) ⟨' ' :: behind, text⟩ := by
  rw [directionWord, bind_assoc, blanks, first_plus_single _ rfl hy, first_anyOf_bind,
    List.findSome?_map]
  rfl

theorem not_prefix_of_head {x : List Char} (hv : v.head?.any isLower = false)
    (hc : isLower c = true) : ¬ c :: x <+: v := by
  rintro ⟨t, rfl⟩
  rw [List.cons_append, List.head?_cons, Option.any_some, hc] at hv
  cases hv

theorem directionWords_lower (hd : d ∈ directionWords) :
    d.toList ≠ [] ∧ ∀ c ∈ d.toList, isLower c = true := by
  have h : (directionWords.all fun d => !d.toList.isEmpty && d.toList.all isLower) = true := by
    decide
  have hw := List.all_eq_true.1 h d hd
  rw [Bool.and_eq_true, Bool.not_eq_true', List.isEmpty_eq_false_iff, List.all_eq_true] at hw
  exact hw

theorem first_direction {f : String → Pattern β} (hd : d ∈ directionWords)
    (hv : v.head?.any isLower = false)
    (h : first (f d) ⟨d.toList.reverse ++ (' ' :: behind), v⟩ = some r) :
    first (directionWord >>= f) ⟨behind, ' ' :: (d.toList ++ v)⟩ = some r := by
  obtain ⟨hne, hlower⟩ := directionWords_lower hd
  have hself : first ((literal d.toList >>= fun _ => pure d) >>= f)
      ⟨' ' :: behind, d.toList ++ v⟩ = some r := by
    rw [first_word, if_pos (List.prefix_append _ _), List.take_left, List.drop_left]
    exact h
  have hnot (x : String) (hx : ¬ x.toList <+: d.toList ++ v) :
      first ((literal x.toList >>= fun _ => pure x) >>= f) ⟨' ' :: behind, d.toList ++ v⟩ =
        none := by
    rw [first_word, if_neg hx]
  rw [first_directionWord f (head_of_lower hne hlower v), directionWords, List.findSome?_cons,
    List.findSome?_cons, List.findSome?_cons, List.findSome?_cons]
  simp only [directionWords, List.mem_cons, List.not_mem_nil, or_false] at hd
  rcases hd with rfl | rfl | rfl | rfl
  · rw [hself]
  · have hx : ¬ "ascending".toList <+: "asc".toList ++ v := fun hp =>
      not_prefix_of_head (c := 'e') hv rfl ((List.prefix_append_right_inj "asc".toList).1 hp)
    rw [hnot _ hx, hself]
  · have hx : ¬ "ascending".toList <+: "descending".toList ++ v := fun hp =>
      absurd (List.cons_prefix_cons.1 hp).1 (by decide)
    have hx' : ¬ "asc".toList <+: "descending".toList ++ v := fun hp =>
      absurd (List.cons_prefix_cons.1 hp).1 (by decide)
    rw [hnot _ hx, hnot _ hx', hself]
  · have hx : ¬ "ascending".toList <+: "desc".toList ++ v := fun hp =>
      absurd (List.cons_prefix_cons.1 hp).1 (by decide)
    have hx' : ¬ "asc".toList <+: "desc".toList ++ v := fun hp =>
      absurd (List.cons_prefix_cons.1 hp).1 (by decide)
    have hx'' : ¬ "descending".toList <+: "desc".toList ++ v := fun hp =>
      not_prefix_of_head (c := 'e') hv rfl ((List.prefix_append_right_inj "desc".toList).1 hp)
    rw [hnot _ hx, hnot _ hx', hnot _ hx'', hself]

theorem first_no_direction (f : String → Pattern β) (hy : text.head?.any Text.isSpace = false)
    (hn : ∀ d ∈ directionWords, ¬ d.toList <+: text) :
    first (directionWord >>= f) ⟨behind, ' ' :: text⟩ = none := by
  rw [first_directionWord f hy, List.findSome?_eq_none_iff]
  intro d hd
  rw [first_word, if_neg (hn d hd)]

theorem head_reverse_lower (hne : word ≠ []) (hl : ∀ c ∈ word, isLower c = true)
    (behind : List Char) : (word.reverse ++ behind).head?.any isLower = true := by
  obtain ⟨x, xs, hx⟩ := List.exists_cons_of_ne_nil (List.reverse_ne_nil_iff.2 hne)
  rw [hx]
  exact hl x (List.mem_reverse.1 (hx ▸ List.mem_cons_self))

theorem any_isWord (w : WordClass) {c : Option Char} (h : c.any isLower = true) :
    c.any w.isWord = true := by
  cases c with
  | none => cases h
  | some c => exact isWord_of_isLower w h

theorem any_isLower_false (w : WordClass) {c : Option Char} (h : c.any w.isWord = false) :
    c.any isLower = false := by
  rw [← Bool.not_eq_true]
  intro hl
  rw [any_isWord w hl] at h
  cases h

theorem boundary_passed (w : WordClass) {f : Unit → Pattern β}
    (hb : behind.head?.any isLower = true) (ha : ahead.head?.any w.isWord = false) :
    first (boundary w >>= f) ⟨behind, ahead⟩ = first (f ()) ⟨behind, ahead⟩ := by
  rw [first_boundary_bind, any_isWord w hb, ha]
  rfl

theorem sortEnd_direction (w : WordClass) (field : List Char) (hd : d ∈ directionWords)
    (hv : v.head?.any w.isWord = false) :
    first (sortEnd w field) ⟨behind, ' ' :: (d.toList ++ v)⟩ =
      some ((field, some d), ⟨d.toList.reverse ++ (' ' :: behind), v⟩) := by
  obtain ⟨hne, hlower⟩ := directionWords_lower hd
  have hend : first (pure (some d) >>= fun direction => boundary w >>= fun _ =>
      pure (field, direction)) ⟨d.toList.reverse ++ (' ' :: behind), v⟩ =
        some ((field, some d), ⟨d.toList.reverse ++ (' ' :: behind), v⟩) := by
    rw [first_pure_bind, boundary_passed w (head_reverse_lower hne hlower _) hv]
    rfl
  rw [sortEnd, atMostOnce, first_or_bind, bind_assoc,
    first_direction hd (any_isLower_false w hv) hend]
  rfl

theorem sortEnd_none (w : WordClass) (field : List Char) (hb : behind.head?.any isLower = true)
    (hy : text.head?.any Text.isSpace = false) (hn : ∀ d ∈ directionWords, ¬ d.toList <+: text) :
    first (sortEnd w field) ⟨behind, ' ' :: text⟩ =
      some ((field, none), ⟨behind, ' ' :: text⟩) := by
  have hspace : (' ' :: text).head?.any w.isWord = false := w.space ' ' rfl
  rw [sortEnd, atMostOnce, first_or_bind, bind_assoc, first_no_direction _ hy hn, first_pure_bind,
    boundary_passed w hb hspace]
  rfl

/-- A clause `sorted by X D`, character by character. -/
def clauseText (verb phrase d : String) : List Char :=
  verb.toList ++ (' ' :: 'b' :: 'y' :: ' ' :: (phrase.toList ++ (' ' :: d.toList)))

/-- The clause stands in the question, and no sort is stated before it. -/
def SortClause (w : WordClass) (question verb phrase d : String) : Prop :=
  ∃ before after, question.toList = before ++ (clauseText verb phrase d ++ after) ∧
    after.head?.any w.isWord = false ∧
    ∀ a b, before = a ++ b → b ≠ [] →
      first (explicitPattern w) ⟨a.reverse, b ++ (clauseText verb phrase d ++ after)⟩ = none

def firstWord (phrase : String) : List Char := phrase.toList.takeWhile isLower

def otherWords (phrase : String) : List Char := phrase.toList.dropWhile isLower

theorem firstWord_lower (phrase : String) : ∀ c ∈ firstWord phrase, isLower c = true :=
  fun _ hc => List.mem_takeWhile_imp hc

theorem firstWord_append (phrase : String) :
    firstWord phrase ++ otherWords phrase = phrase.toList := List.takeWhile_append_dropWhile

theorem resolveField_word (hne : word ≠ []) (hl : ∀ c ∈ word, isLower c = true) :
    resolveField word = knownField (.ofList word) := by
  have hs : word.splitOnP Text.isSpace = [word] :=
    List.splitOnP_eq_singleton fun c hc => isSpace_of_isLower (hl c hc)
  have he : (!word.isEmpty) = true := by
    cases word with
    | nil => exact absurd rfl hne
    | cons c word => rfl
  rw [resolveField, Text.splitWords, hs, List.filter_singleton, he]
  show (knownField (" ".intercalate [.ofList word])).or none = _
  rw [Option.or_none]
  rfl

theorem explicitSort_of_clause (direction : Option String) (hverb : verb ∈ sortVerbs)
    (hne : firstWord phrase ≠ [])
    (hspace : ∀ after, (otherWords phrase ++ (' ' :: after)).head? = some ' ')
    (hc : SortClause w question verb phrase d)
    (h : ∀ behind after, after.head?.any w.isWord = false →
      (first (sortEnd w (firstWord phrase)) ⟨(firstWord phrase).reverse ++ behind,
        otherWords phrase ++ (' ' :: (d.toList ++ after))⟩).map Prod.fst =
          some (firstWord phrase, direction)) (metrics : List MetricExpression) :
    (explicitSort w question.toList metrics).map (fun t => (t.field, t.direction)) =
      ((knownField (.ofList (firstWord phrase))).or
        (metrics.head?.map MetricExpression.name)).map fun field =>
          (field, directionOf direction) := by
  obtain ⟨before, after, hq, hafter, hfirst⟩ := hc
  obtain ⟨r, hr, hr'⟩ := Option.map_eq_some_iff.1
    (h (' ' :: 'y' :: 'b' :: ' ' :: (verb.toList.reverse ++ before.reverse)) after hafter)
  have hl := firstWord_lower phrase
  have hmatch := first_explicit hverb hne hl (hspace _) hr
  have htext : verb.toList ++ (' ' :: 'b' :: 'y' :: ' ' :: (firstWord phrase ++
      (otherWords phrase ++ (' ' :: (d.toList ++ after))))) =
        clauseText verb phrase d ++ after := by
    rw [clauseText, ← firstWord_append phrase]
    simp only [List.append_assoc, List.cons_append]
  rw [htext] at hmatch
  have hsearch : search (explicitPattern w) question.toList =
      some ⟨r.1, ⟨before.reverse, clauseText verb phrase d ++ after⟩, r.2⟩ := by
    rw [← List.append_nil before.reverse] at hmatch
    rw [search, hq, searchFrom_append before, searchFrom_of_first hmatch, List.append_nil]
    intro a b hab hb
    rw [List.append_nil]
    exact hfirst a b hab hb
  rw [explicitSort, hsearch]
  show Option.map _ (Option.bind ((resolveField r.1.1).or _) _) = _
  rw [hr', resolveField_word hne hl]
  cases (knownField (.ofList (firstWord phrase))).or
    (metrics.head?.map MetricExpression.name) <;> rfl

/-- Lower case words, of which the second one does not begin as a direction does. -/
def plainPhrase (phrase : String) : Bool :=
  !(firstWord phrase).isEmpty &&
    match otherWords phrase with
    | [] => true
    | ' ' :: a :: b :: _ => isLower a && (a, b) ≠ ('a', 's') && (a, b) ≠ ('d', 'e')
    | _ => false

theorem vocabulary_plain :
    ∀ p ∈ metricSynonyms ++ (dimensionSynonyms ++ entitySynonyms), plainPhrase p.1 = true := by
  decide +kernel

theorem mem_of_lookup {l : List (String × String)} (h : l.lookup k = some v) : (k, v) ∈ l := by
  obtain ⟨l₁, l₂, rfl, -⟩ := List.lookup_eq_some_iff.1 h
  exact List.mem_append_right _ List.mem_cons_self

theorem knownField_plain (h : knownField phrase = some canonical) : plainPhrase phrase = true := by
  apply vocabulary_plain (phrase, canonical)
  rw [knownField, ← List.lookup_append, ← List.lookup_append] at h
  exact mem_of_lookup h

theorem plainPhrase_cases (h : plainPhrase phrase = true) : firstWord phrase ≠ [] ∧
    (otherWords phrase = [] ∨ ∃ a b rest, otherWords phrase = ' ' :: a :: b :: rest ∧
      isLower a = true ∧ (a, b) ≠ ('a', 's') ∧ (a, b) ≠ ('d', 'e')) := by
  obtain ⟨hf, ho⟩ := Bool.and_eq_true_iff.1 h
  constructor
  · intro he
    rw [he] at hf
    cases hf
  · split at ho
    · rename_i he
      exact .inl he
    · rename_i a b rest he
      simp only [Bool.and_eq_true, decide_eq_true_eq] at ho
      exact .inr ⟨a, b, rest, he, ho.1.1, ho.1.2, ho.2⟩
    · cases ho

theorem not_direction {text : List Char} (h : (a, b) ≠ ('a', 's')) (h' : (a, b) ≠ ('d', 'e'))
    (hd : d ∈ directionWords) : ¬ d.toList <+: a :: b :: text := by
  have hstart : ∃ t, d.toList = 'a' :: 's' :: t ∨ d.toList = 'd' :: 'e' :: t := by
    simp only [directionWords, List.mem_cons, List.not_mem_nil, or_false] at hd
    rcases hd with rfl | rfl | rfl | rfl
    · exact ⟨_, .inl rfl⟩
    · exact ⟨_, .inl rfl⟩
    · exact ⟨_, .inr rfl⟩
    · exact ⟨_, .inr rfl⟩
  obtain ⟨t, ht | ht⟩ := hstart
  · rw [ht]
    intro hp
    obtain ⟨ha, hp⟩ := List.cons_prefix_cons.1 hp
    exact h (by rw [← ha, ← (List.cons_prefix_cons.1 hp).1])
  · rw [ht]
    intro hp
    obtain ⟨ha, hp⟩ := List.cons_prefix_cons.1 hp
    exact h' (by rw [← ha, ← (List.cons_prefix_cons.1 hp).1])

theorem explicitSort_one (hx : knownField phrase = some canonical) (hone : otherWords phrase = [])
    (hverb : verb ∈ sortVerbs) (hd : d ∈ directionWords) (hc : SortClause w question verb phrase d)
    (metrics : List MetricExpression) :
    (explicitSort w question.toList metrics).map (fun t => (t.field, t.direction)) =
      some (canonical, directionOf (some d)) := by
  have hne := (plainPhrase_cases (knownField_plain hx)).1
  have hword : String.ofList (firstWord phrase) = phrase := by
    have happ := firstWord_append phrase
    rw [hone, List.append_nil] at happ
    rw [happ, String.ofList_toList]
  rw [explicitSort_of_clause (some d) hverb hne (fun after => by rw [hone]; rfl) hc, hword, hx]
  · rfl
  · intro behind after hafter
    rw [hone, List.nil_append, sortEnd_direction w _ hd hafter]
    rfl

theorem explicitSort_more (hx : knownField phrase = some canonical) (hmore : otherWords phrase ≠ [])
    (hverb : verb ∈ sortVerbs) (hc : SortClause w question verb phrase d)
    (metrics : List MetricExpression) :
    (explicitSort w question.toList metrics).map (fun t => (t.field, t.direction)) =
      ((knownField (.ofList (firstWord phrase))).or
        (metrics.head?.map MetricExpression.name)).map fun field => (field, .descending) := by
  obtain ⟨hne, hone | ⟨a, b, rest, ho, ha, h₁, h₂⟩⟩ := plainPhrase_cases (knownField_plain hx)
  · exact absurd hone hmore
  · apply explicitSort_of_clause none hverb hne (fun after => by rw [ho]; rfl) hc
    intro behind after _
    have hy : (a :: b :: (rest ++ (' ' :: (d.toList ++ after)))).head?.any Text.isSpace = false :=
      isSpace_of_isLower ha
    rw [ho]
    show (first _ ⟨_, ' ' :: (a :: b :: (rest ++ _))⟩).map Prod.fst = _
    rw [sortEnd_none w _ (head_reverse_lower hne (firstWord_lower phrase) behind) hy
      fun d hd => not_direction h₁ h₂ hd]
    rfl

theorem extractSort_eq (h : metrics = [] ∨ explicitSort w question.toList metrics ≠ none) :
    extractSort w question metrics = explicitSort w question.toList metrics := by
  rw [extractSort]
  cases he : explicitSort w question.toList metrics with
  | some t => rfl
  | none =>
    rcases h with rfl | h
    · rfl
    · exact absurd he h

theorem extractSort_stated (hr : (explicitSort w question.toList metrics).map
    (fun t => (t.field, t.direction)) = stated) (hm : metrics = [] ∨ stated ≠ none) :
    (∃ t, extractSort w question metrics = some t ∧ t.field = field ∧ t.direction = direction) ↔
      stated = some (field, direction) := by
  have hm' : metrics = [] ∨ explicitSort w question.toList metrics ≠ none := by
    apply hm.imp id
    intro hn he
    rw [he] at hr
    exact hn hr.symm
  rw [extractSort_eq hm', ← hr, Option.map_eq_some_iff]
  simp only [Prod.mk.injEq]

/-- The field and the direction of a clause are read exactly where its field is one word, or where
the direction is the descending one and the first word alone stands for the field. -/
theorem extractSort_clause_iff (w : WordClass) (hx : knownField phrase = some canonical)
    (hverb : verb ∈ sortVerbs) (hd : d ∈ directionWords) (hc : SortClause w question verb phrase d)
    (metrics : List MetricExpression) :
    (∃ t, extractSort w question metrics = some t ∧ t.field = canonical ∧
        t.direction = directionOf (some d)) ↔
      otherWords phrase = [] ∨
        directionOf (some d) = .descending ∧
          (knownField (.ofList (firstWord phrase))).or
            (metrics.head?.map MetricExpression.name) = some canonical := by
  by_cases hone : otherWords phrase = []
  · have hr := explicitSort_one hx hone hverb hd hc metrics
    rw [extractSort_stated hr (.inr (Option.some_ne_none _))]
    exact iff_of_true rfl (.inl hone)
  · have hr := explicitSort_more hx hone hverb hc metrics
    have hm : metrics = [] ∨ ((knownField (.ofList (firstWord phrase))).or
        (metrics.head?.map MetricExpression.name)).map
          (fun field => (field, SortDirection.descending)) ≠ none := by
      cases metrics with
      | nil => exact .inl rfl
      | cons m metrics =>
        right
        cases knownField (.ofList (firstWord phrase)) <;> exact Option.some_ne_none _
    rw [extractSort_stated hr hm, or_iff_right hone, Option.map_eq_some_iff]
    constructor
    · rintro ⟨field, hf, he⟩
      obtain ⟨hfield, hdir⟩ := Prod.mk.inj he
      exact ⟨hdir.symm, hfield ▸ hf⟩
    · rintro ⟨hdir, hf⟩
      exact ⟨canonical, hf, by rw [hdir]⟩

theorem sortClause_alone (w : WordClass)
    (hq : question.toList = clauseText verb phrase d) : SortClause w question verb phrase d := by
  refine ⟨[], [], by rw [hq, List.nil_append, List.append_nil], rfl, ?_⟩
  intro a b hab hb
  exact absurd (List.append_eq_nil_iff.1 hab.symm).2 hb

theorem extractSort_price :
    ∃ t, extractSort asciiWord "sorted by price asc" [] = some t ∧ t.field = "price" ∧
      t.direction = .ascending :=
  have hx : knownField "price" = some "price" := by decide +kernel
  have hone : otherWords "price" = [] := by decide
  have hc : SortClause asciiWord "sorted by price asc" "sorted" "price" "asc" :=
    sortClause_alone asciiWord (by decide)
  (extractSort_clause_iff asciiWord hx (by decide) (by decide) hc []).2 (.inl hone)

theorem extractSort_cut :
    SortClause asciiWord "sorted by order value asc" "sorted" "order value" "asc" ∧
      knownField "order value" = some "order_value" ∧
      extractSort asciiWord "sorted by order value asc" [] =
        some ⟨"order", .descending, "sorted by order"⟩ := by
  refine ⟨sortClause_alone asciiWord (by decide), by decide +kernel, by decide +kernel⟩

end QueryMind.Nlu
