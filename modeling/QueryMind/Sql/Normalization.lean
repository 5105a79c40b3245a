import QueryMind.Lib.SqlLexer
import QueryMind.Sql.Generation

namespace QueryMind.Sql
open Lib Lib.SqlLexer
set_option autoImplicit true

theorem lineFeeds_cr (h : v.head? ≠ some '\n') : lineFeeds ('\r' :: v) = '\n' :: lineFeeds v := by
  cases v with
  | nil => rfl
  | cons c v =>
    have hc : c ≠ '\n' := fun hc => h (congrArg some hc)
    rw [lineFeeds]
    intro cs he
    exact hc (List.cons.inj he).1

theorem lineFeeds_other (h : c ≠ '\r') (v : List Char) : lineFeeds (c :: v) = c :: lineFeeds v := by
  rw [lineFeeds]
  · exact fun cs hc _ => h hc
  · exact fun hc => h hc

theorem lineFeeds_append (h : u.getLast? = some '\r' → v.head? ≠ some '\n') :
    lineFeeds (u ++ v) = lineFeeds u ++ lineFeeds v := by
  induction u using lineFeeds.induct with
  | case1 cs ih =>
    have hl : cs.getLast? = some '\r' → v.head? ≠ some '\n' := by
      intro hc
      apply h
      rw [List.getLast?_cons, List.getLast?_cons, hc]
      rfl
    show '\n' :: lineFeeds (cs ++ v) = '\n' :: lineFeeds cs ++ lineFeeds v
    rw [ih hl, List.cons_append]
  | case2 cs hn ih =>
    have hl : cs.getLast? = some '\r' → v.head? ≠ some '\n' := by
      intro hc
      apply h
      rw [List.getLast?_cons, hc]
      rfl
    have hcs : cs.head? ≠ some '\n' := by
      cases cs with
      | nil => exact fun hc => nomatch hc
      | cons c cs =>
        intro hc
        exact hn cs (by rw [Option.some.inj hc])
    have hcv : (cs ++ v).head? ≠ some '\n' := by
      cases cs with
      | nil => exact h rfl
      | cons c cs => exact hcs
    rw [List.cons_append, lineFeeds_cr hcv, lineFeeds_cr hcs, ih hl, List.cons_append]
  | case3 c cs h₁ h₂ ih =>
    have hl : cs.getLast? = some '\r' → v.head? ≠ some '\n' := by
      intro hc
      apply h
      rw [List.getLast?_cons, hc]
      rfl
    rw [List.cons_append, lineFeeds_other h₂, lineFeeds_other h₂, ih hl, List.cons_append]
  | case4 => rfl

theorem mem_lineFeeds (h : c ∈ lineFeeds v) : c ≠ '\r' ∧ (c ∈ v ∨ c = '\n') := by
  induction v using lineFeeds.induct with
  | case1 cs ih =>
    rw [lineFeeds, List.mem_cons] at h
    grind
  | case2 cs hn ih =>
    rw [lineFeeds, List.mem_cons] at h
    · grind
    · exact hn
  | case3 d cs h₁ h₂ ih =>
    rw [lineFeeds_other h₂, List.mem_cons] at h
    grind
  | case4 => cases h

theorem lineFeeds_eq (h : '\r' ∉ v) : lineFeeds v = v := by
  induction v with
  | nil => rfl
  | cons c v ih =>
    rw [List.mem_cons, not_or] at h
    rw [lineFeeds_other (Ne.symm h.1), ih h.2]

theorem lineFeeds_eq_iff : lineFeeds v = v ↔ '\r' ∉ v :=
  ⟨fun h hr => (mem_lineFeeds (h.symm ▸ hr)).1 rfl, lineFeeds_eq⟩

/-- What line feeds make of a token: only the texts between quotes change. -/
def fedToken : Token → Token
  | .quoted q cs => .quoted q (lineFeeds cs)
  | .unclosed q cs => .unclosed q (lineFeeds cs)
  | t => t

def fedText (cs : List Char) : List Char := (lineFeeds cs.reverse).reverse

def fedState : State → State
  | .quoted q cs => .quoted q (fedText cs)
  | .closed q cs => .closed q (fedText cs)
  | s => s

def fed (r : List Token × State) : List Token × State := (r.1.map fedToken, fedState r.2)

def quotedLast : State → Option Char
  | .quoted _ cs => cs.head?
  | _ => none

theorem fedText_cons (h : c ≠ '\r') (hc : c = '\n' → cs.head? ≠ some '\r') :
    fedText (c :: cs) = c :: fedText cs := by
  have hl : cs.reverse.getLast? = some '\r' → [c].head? ≠ some '\n' := by
    intro hr hn
    rw [List.getLast?_reverse] at hr
    exact hc (Option.some.inj hn) hr
  rw [fedText, List.reverse_cons, lineFeeds_append hl, lineFeeds_other h, List.reverse_append]
  rfl

theorem fedText_cr (cs : List Char) : fedText ('\r' :: cs) = '\n' :: fedText cs := by
  rw [fedText, List.reverse_cons, lineFeeds_append fun _ => by decide, List.reverse_append]
  rfl

theorem fedText_crlf (cs : List Char) : fedText ('\n' :: '\r' :: cs) = '\n' :: fedText cs := by
  rw [fedText, List.reverse_cons, List.reverse_cons, List.append_assoc,
    lineFeeds_append fun _ => by decide, List.reverse_append]
  rfl

theorem fed_emit (t : Token) (r : List Token × State) :
    fed (emit t r) = emit (fedToken t) (fed r) := rfl

theorem fed_begin (c : Char) : fed (begin c) = begin c := by
  rw [begin]
  split_ifs <;> rfl

theorem fed_emit_begin (h : fedToken t = t) (c : Char) :
    fed (emit t (begin c)) = emit t (begin c) := by
  rw [fed_emit, fed_begin, h]

theorem fed_closed (q : Quote) (cs : List Char) :
    fedToken (.quoted q cs.reverse) = .quoted q (fedText cs).reverse := by
  rw [fedText, List.reverse_reverse, fedToken]

theorem quote_ne_cr (q : Quote) : q.char ≠ '\r' := by cases q <;> decide

theorem quote_ne_lf (q : Quote) : q.char ≠ '\n' := by cases q <;> decide

theorem step_fed (h : c ≠ '\r') (hs : c = '\n' → quotedLast s ≠ some '\r') :
    step (fedState s) c = fed (step s c) := by
  cases s with
  | between => exact (fed_begin c).symm
  | word cs =>
    show step (.word cs) c = _
    rw [step]
    split
    · rfl
    · exact (fed_emit_begin rfl c).symm
  | dash =>
    show step .dash c = _
    rw [step]
    split
    · rfl
    · exact (fed_emit_begin rfl c).symm
  | slash =>
    show step .slash c = _
    rw [step]
    split
    · rfl
    · exact (fed_emit_begin rfl c).symm
  | line =>
    show step .line c = _
    rw [step]
    split <;> rfl
  | block d =>
    show step (.block d) c = _
    rw [step]
    split_ifs <;> rfl
  | blockStar d =>
    show step (.blockStar d) c = _
    cases d <;> rw [step] <;> split_ifs <;> rfl
  | blockSlash d =>
    show step (.blockSlash d) c = _
    rw [step]
    split_ifs <;> rfl
  | quoted q cs =>
    rw [fedState, step, step, ← fedText_cons h hs]
    split <;> rfl
  | closed q cs =>
    rw [fedState, step, step]
    split
    · rename_i hq
      have hl : c ≠ '\n' := fun hl => quote_ne_lf q (hq.symm.trans hl)
      rw [← fedText_cons h fun hl' => absurd hl' hl, ← fedText_cons h fun hl' => absurd hl' hl]
      rfl
    · rw [fed_emit, fed_begin, fed_closed]

theorem step_cr (s : State) : step (fedState s) '\n' = fed (step s '\r') := by
  cases s with
  | quoted q cs =>
    rw [fedState, step, step, if_neg (quote_ne_lf q).symm, if_neg (quote_ne_cr q).symm, fed,
      fedState, fedText_cr]
    rfl
  | closed q cs =>
    rw [fedState, step, step, if_neg (quote_ne_lf q).symm, if_neg (quote_ne_cr q).symm, fed_emit,
      fed_closed]
    rfl
  | _ => rfl

theorem step_crlf (s : State) :
    (step (step s '\r').2 '\n').1 = [] ∧
      fedState (step (step s '\r').2 '\n').2 = fedState (step s '\r').2 := by
  cases s with
  | quoted q cs =>
    rw [step, if_neg (quote_ne_cr q).symm, step, if_neg (quote_ne_lf q).symm, fedState, fedState,
      fedText_cr, fedText_crlf]
    exact ⟨rfl, rfl⟩
  | closed q cs =>
    rw [step, if_neg (quote_ne_cr q).symm]
    exact ⟨rfl, rfl⟩
  | _ => exact ⟨rfl, rfl⟩

theorem quotedLast_begin (c : Char) : quotedLast (begin c).2 = none := by
  rw [begin]
  split_ifs <;> rfl

theorem quotedLast_step (h : quotedLast (step s c).2 = some d) : d = c := by
  have hb : quotedLast (begin c).2 ≠ some d := by
    rw [quotedLast_begin]
    exact (Option.some_ne_none d).symm
  cases s with
  | between => exact absurd h hb
  | quoted q cs =>
    rw [step] at h
    split at h
    · cases h
    · exact (Option.some.inj h).symm
  | closed q cs =>
    rw [step] at h
    split at h
    · exact (Option.some.inj h).symm
    · exact absurd h hb
  | word cs =>
    rw [step] at h
    split at h
    · cases h
    · exact absurd h hb
  | dash =>
    rw [step] at h
    split at h
    · cases h
    · exact absurd h hb
  | slash =>
    rw [step] at h
    split at h
    · cases h
    · exact absurd h hb
  | line =>
    rw [step] at h
    split at h <;> cases h
  | block e =>
    rw [step] at h
    split_ifs at h <;> cases h
  | blockStar e =>
    cases e <;> rw [step] at h <;> split_ifs at h <;> cases h
  | blockSlash e =>
    rw [step] at h
    split_ifs at h <;> cases h

theorem fed_cons (s : State) (c : Char) (cs : List Char) :
    fed (run s (c :: cs)) =
      ((fed (step s c)).1 ++ (fed (run (step s c).2 cs)).1, (fed (run (step s c).2 cs)).2) := by
  rw [run, fed, List.map_append]
  rfl

/-- Changing the line ends of a text commutes with reading its tokens. -/
theorem run_fed (h : text.head? = some '\n' → quotedLast s ≠ some '\r') :
    run (fedState s) (lineFeeds text) = fed (run s text) := by
  induction text using lineFeeds.induct generalizing s with
  | case1 cs ih =>
    obtain ⟨hn, hs⟩ := step_crlf s
    have hl : cs.head? = some '\n' → quotedLast (step (step s '\r').2 '\n').2 ≠ some '\r' :=
      fun _ hq => absurd (quotedLast_step hq) (by decide)
    have hr := ih hl
    rw [hs] at hr
    rw [lineFeeds, run, step_cr, fed_cons, fed_cons, ← hr]
    show _ = ((fed (step s '\r')).1 ++ ((step (step s '\r').2 '\n').1.map fedToken ++ _), _)
    rw [hn]
    rfl
  | case2 cs hn ih =>
    have hl : cs.head? ≠ some '\n' := by
      cases cs with
      | nil => exact (Option.some_ne_none _).symm
      | cons c cs =>
        intro hc
        exact hn cs (by rw [Option.some.inj hc])
    rw [lineFeeds_cr hl, run, step_cr, fed_cons, ← ih fun hc => absurd hc hl]
    rfl
  | case3 c cs h₁ h₂ ih =>
    have hc : c = '\n' → quotedLast s ≠ some '\r' := fun hc => h (congrArg some hc)
    have hl : cs.head? = some '\n' → quotedLast (step s c).2 ≠ some '\r' :=
      fun _ hq => h₂ (quotedLast_step hq).symm
    rw [lineFeeds_other h₂, run, step_fed h₂ hc, fed_cons, ← ih hl]
    rfl
  | case4 => rfl

theorem finish_fed (s : State) : finish (fedState s) = (finish s).map fedToken := by
  cases s with
  | quoted q cs =>
    show [Token.unclosed q (fedText cs).reverse] = [Token.unclosed q (lineFeeds cs.reverse)]
    rw [fedText, List.reverse_reverse]
  | closed q cs =>
    show [Token.quoted q (fedText cs).reverse] = [Token.quoted q (lineFeeds cs.reverse)]
    rw [fedText, List.reverse_reverse]
  | _ => rfl

theorem run_lineFeeds (text : List Char) :
    run .between (lineFeeds text) = fed (run .between text) :=
  run_fed (s := .between) fun _ => (Option.some_ne_none _).symm

theorem tokens_lineFeeds (text : List Char) :
    tokens (lineFeeds text) = (tokens text).map fedToken := by
  rw [tokens, run_lineFeeds, tokens, List.map_append, ← finish_fed]
  rfl

theorem isOutside_fed (s : State) : (fedState s).isOutside = s.isOutside := by cases s <;> rfl

theorem isTrailer_of_isSpace (h : Text.isSpace c = true) : isTrailer c = true := by
  rw [isTrailer, h, Bool.or_true]

theorem isTrailer_iff : isTrailer c = true ↔ Text.isSpace c = true ∨ c = ';' := by
  rw [isTrailer, Bool.or_eq_true, decide_eq_true_eq, or_comm]

theorem lineFeeds_trailers (h : ∀ c ∈ v, isTrailer c = true) (c : Char) (hc : c ∈ lineFeeds v) :
    isTrailer c = true := by
  obtain hc | rfl := (mem_lineFeeds hc).2
  · exact h c hc
  · rfl

def untrailed (text : List Char) : List Char := text.rdropWhile isTrailer

theorem exists_trailers (text : List Char) :
    ∃ v, text = untrailed text ++ v ∧ ∀ c ∈ v, isTrailer c = true :=
  ⟨text.rtakeWhile isTrailer, List.rdropWhile_append_rtakeWhile.symm,
    fun _ hc => List.mem_rtakeWhile_imp hc⟩

theorem untrailed_cases (text : List Char) :
    untrailed text = [] ∨ ∃ u c, untrailed text = u ++ [c] ∧ ¬ isTrailer c = true := by
  by_cases h : untrailed text = []
  · exact .inl h
  · exact .inr ⟨_, _, (List.dropLast_append_getLast h).symm, List.rdropWhile_last_not _ _ h⟩

theorem untrailed_lineFeeds (text : List Char) :
    untrailed (lineFeeds text) = lineFeeds (untrailed text) := by
  obtain ⟨v, hv, ht⟩ := exists_trailers text
  rcases untrailed_cases text with hu | ⟨u, c, hu, hc⟩
  · have hall : ∀ c ∈ text, isTrailer c = true := List.rdropWhile_eq_nil_iff.1 hu
    rw [hu, untrailed, List.rdropWhile_eq_nil_iff.2 (lineFeeds_trailers hall)]
    rfl
  · have hr : c ≠ '\r' := fun hr => hc (hr ▸ rfl)
    have hn : c ≠ '\n' := fun hn => hc (hn ▸ rfl)
    have hl : (u ++ [c]).getLast? = some '\r' → v.head? ≠ some '\n' := by
      intro h
      rw [List.getLast?_concat] at h
      exact absurd (Option.some.inj h) hr
    have hm : u.getLast? = some '\r' → [c].head? ≠ some '\n' :=
      fun _ h => hn (Option.some.inj h)
    rw [hu] at hv
    rw [hu, hv, lineFeeds_append hl, untrailed,
      Text.rdropWhile_append_of_all (lineFeeds_trailers ht), lineFeeds_append hm,
      lineFeeds_other hr]
    exact List.rdropWhile_concat_neg _ _ _ hc

theorem toList_normalize (sql : String) :
    (normalize sql).toList =
      (lineFeeds (untrailed sql.toList)).dropWhile Text.isSpace ++ [';'] := by
  have hs (c : Char) (h : Text.isSpace c = true) : isTrailer c = true := isTrailer_of_isSpace h
  rw [normalize, Text.strip, String.toList_append, String.toList_ofList, String.toList_ofList,
    String.toList_ofList, Text.stripChars, Text.rdropWhile_rdropWhile hs,
    Text.rdropWhile_dropWhile hs, ← untrailed_lineFeeds]
  rfl

theorem normalize_idem (sql : String) : normalize (normalize sql) = normalize sql := by
  have hs (c : Char) (h : Text.isSpace c = true) : isTrailer c = true := isTrailer_of_isSpace h
  have hu : untrailed (untrailed sql.toList) = untrailed sql.toList :=
    List.rdropWhile_idempotent _ _
  have hr : '\r' ∉ (lineFeeds (untrailed sql.toList)).dropWhile Text.isSpace :=
    fun h => (mem_lineFeeds ((List.dropWhile_suffix _).subset h)).1 rfl
  have hb : untrailed ((lineFeeds (untrailed sql.toList)).dropWhile Text.isSpace) =
      (lineFeeds (untrailed sql.toList)).dropWhile Text.isSpace := by
    rw [untrailed, Text.rdropWhile_dropWhile hs]
    show (untrailed _).dropWhile _ = _
    rw [untrailed_lineFeeds, hu]
  have hc : untrailed (normalize sql).toList =
      (lineFeeds (untrailed sql.toList)).dropWhile Text.isSpace := by
    rw [toList_normalize, untrailed, List.rdropWhile_concat_pos _ _ _ rfl]
    exact hb
  apply String.toList_injective
  rw [toList_normalize (normalize sql), hc, lineFeeds_eq hr, List.dropWhile_idempotent,
    ← toList_normalize]

/-- The text ends with a semicolon that stands outside of comments, strings and quoted names. -/
def Terminated (text : List Char) : Prop :=
  ∃ statement, text = statement ++ [';'] ∧ (run .between statement).2.isOutside = true

def dropSemicolons (ts : List Token) : List Token := ts.rdropWhile (· = semicolon)

/-- The statement itself ends outside of comments, strings and quoted names. -/
def EndsOutside (sql : String) : Prop :=
  (run .between (untrailed sql.toList)).2.isOutside = true

def quotedText : Token → List Char
  | .quoted _ cs => cs
  | .unclosed _ cs => cs
  | _ => []

theorem terminated_iff (sql : String) : Terminated (normalize sql).toList ↔ EndsOutside sql := by
  have hr : (run .between ((lineFeeds (untrailed sql.toList)).dropWhile Text.isSpace)).2.isOutside =
      (run .between (untrailed sql.toList)).2.isOutside := by
    rw [run_dropWhile, run_lineFeeds]
    exact isOutside_fed _
  rw [Terminated, EndsOutside, ← hr, toList_normalize]
  constructor
  · rintro ⟨statement, hs, ho⟩
    rw [List.append_cancel_right hs]
    exact ho
  · intro ho
    exact ⟨_, rfl, ho⟩

theorem fedToken_eq_iff : fedToken t = t ↔ '\r' ∉ quotedText t := by
  cases t with
  | quoted q cs =>
    rw [fedToken, Token.quoted.injEq, quotedText, lineFeeds_eq_iff]
    exact and_iff_right rfl
  | unclosed q cs =>
    rw [fedToken, Token.unclosed.injEq, quotedText, lineFeeds_eq_iff]
    exact and_iff_right rfl
  | _ => exact iff_of_true rfl List.not_mem_nil

theorem fedToken_eq_semicolon : fedToken t = semicolon ↔ t = semicolon := by
  cases t with
  | quoted q cs => exact iff_of_false Token.noConfusion Token.noConfusion
  | unclosed q cs => exact iff_of_false Token.noConfusion Token.noConfusion
  | _ => exact Iff.rfl

theorem dropSemicolons_fed (ts : List Token) :
    dropSemicolons (ts.map fedToken) = (dropSemicolons ts).map fedToken := by
  have hp : (fun t : Token => decide (t = semicolon)) ∘ fedToken =
      fun t => decide (t = semicolon) := by
    funext t
    exact decide_eq_decide.2 fedToken_eq_semicolon
  rw [dropSemicolons, dropSemicolons, List.rdropWhile, List.rdropWhile, ← List.map_reverse,
    List.dropWhile_map, hp, List.map_reverse]

theorem dropSemicolons_append (ts : List Token) (n : Nat) :
    dropSemicolons (ts ++ List.replicate n semicolon) = dropSemicolons ts :=
  Text.rdropWhile_append_of_all fun _ ht => decide_eq_true (List.eq_of_mem_replicate ht)

theorem dropSemicolons_tokens (h : EndsOutside sql) :
    dropSemicolons (tokens sql.toList) = dropSemicolons (tokens (untrailed sql.toList)) := by
  obtain ⟨v, hv, ht⟩ := exists_trailers sql.toList
  obtain ⟨n, hn⟩ := tokens_trailers h fun c hc => isTrailer_iff.1 (ht c hc)
  rw [← hv] at hn
  rw [hn, dropSemicolons_append]

theorem tokens_dropWhile (text : List Char) :
    tokens (text.dropWhile Text.isSpace) = tokens text := by
  rw [tokens, run_dropWhile, tokens]

theorem dropSemicolons_normalize (h : EndsOutside sql) :
    dropSemicolons (tokens (normalize sql).toList) =
      (dropSemicolons (tokens sql.toList)).map fedToken := by
  have ho : (run .between ((lineFeeds (untrailed sql.toList)).dropWhile
      Text.isSpace)).2.isOutside = true := by
    rw [run_dropWhile, run_lineFeeds]
    exact (isOutside_fed _).trans h
  have ht : ∀ c ∈ [';'], Text.isSpace c = true ∨ c = ';' :=
    fun c hc => .inr (List.mem_singleton.1 hc)
  obtain ⟨n, hn⟩ := tokens_trailers ho ht
  rw [toList_normalize, hn, dropSemicolons_append, tokens_dropWhile, tokens_lineFeeds,
    dropSemicolons_fed, dropSemicolons_tokens h]

theorem fed_dropSemicolons_iff (ts : List Token) :
    (dropSemicolons ts).map fedToken = dropSemicolons ts ↔ ∀ t ∈ ts, '\r' ∉ quotedText t := by
  have hm : (dropSemicolons ts).map fedToken = dropSemicolons ts ↔
      ∀ t ∈ dropSemicolons ts, fedToken t = t := by
    conv_lhs => rw [← List.map_id (dropSemicolons ts), List.map_map]
    exact List.map_inj_left
  have hts : dropSemicolons ts ++ ts.rtakeWhile (· = semicolon) = ts :=
    List.rdropWhile_append_rtakeWhile
  rw [hm]
  constructor
  · intro h t ht
    rw [← hts, List.mem_append] at ht
    rcases ht with ht | ht
    · exact fedToken_eq_iff.1 (h t ht)
    · have hs : decide (t = semicolon) = true :=
        List.mem_rtakeWhile_imp (p := fun t => decide (t = semicolon)) ht
      rw [of_decide_eq_true hs]
      exact List.not_mem_nil
  · intro h t ht
    exact fedToken_eq_iff.2 (h t ((List.rdropWhile_prefix _ _).subset ht))

/-- Normalizing twice is normalizing once; the semicolon ends the statement and its tokens stay
exactly where it ends outside of comments and quotes and quotes no carriage return. -/
theorem normalize_preserves_iff (sql : String) :
    normalize (normalize sql) = normalize sql ∧
      ((Terminated (normalize sql).toList ∧
          dropSemicolons (tokens (normalize sql).toList) = dropSemicolons (tokens sql.toList)) ↔
        EndsOutside sql ∧ ∀ t ∈ tokens sql.toList, '\r' ∉ quotedText t) := by
  refine ⟨normalize_idem sql, ?_⟩
  rw [terminated_iff]
  apply and_congr_right
  intro h
  rw [dropSemicolons_normalize h]
  exact fed_dropSemicolons_iff _

theorem normalize_loses :
    ¬ Terminated (normalize "SELECT 1 -- c").toList ∧
      dropSemicolons (tokens (normalize "SELECT 'a\rb'").toList) ≠
        dropSemicolons (tokens "SELECT 'a\rb'".toList) := by
  constructor
  · rw [terminated_iff, EndsOutside]
    decide +kernel
  · decide +kernel

end QueryMind.Sql
