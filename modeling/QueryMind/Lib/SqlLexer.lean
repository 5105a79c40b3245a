import QueryMind.Lib.Text

namespace QueryMind.Lib.SqlLexer
set_option autoImplicit true

inductive Quote
  | single
  | double
  deriving DecidableEq, Repr

def Quote.char : Quote → Char
  | .single => '\''
  | .double => '"'

/-- A word, a string or a quoted name as it is written, or a character on its own. -/
inductive Token
  | word (cs : List Char)
  | quoted (q : Quote) (cs : List Char)
  | unclosed (q : Quote) (cs : List Char)
  | symbol (c : Char)
  deriving DecidableEq, Repr

/-- Where a lexer stands after some characters; texts are kept last character first. -/
inductive State
  | between
  | word (cs : List Char)
  | dash
  | slash
  | line
  | block (depth : Nat)
  | blockStar (depth : Nat)
  | blockSlash (depth : Nat)
  | quoted (q : Quote) (cs : List Char)
  | closed (q : Quote) (cs : List Char)
  deriving DecidableEq, Repr

def isWordChar (c : Char) : Bool :=
  c.isAlphanum || c == '_' || c == '$' || (128 ≤ c.toNat && !Text.isSpace c)

def isLineEnd (c : Char) : Bool := c == '\n' || c == '\r'

def begin (c : Char) : List Token × State :=
  if Text.isSpace c then ([], .between)
  else if c = '-' then ([], .dash)
  else if c = '/' then ([], .slash)
  else if c = '\'' then ([], .quoted .single [])
  else if c = '"' then ([], .quoted .double [])
  else if isWordChar c then ([], .word [c])
  else ([.symbol c], .between)

def emit (t : Token) (r : List Token × State) : List Token × State := (t :: r.1, r.2)

def step : State → Char → List Token × State
  | .between, c => begin c
  | .word cs, c => if isWordChar c then ([], .word (c :: cs)) else emit (.word cs.reverse) (begin c)
  | .dash, c => if c = '-' then ([], .line) else emit (.symbol '-') (begin c)
  | .slash, c => if c = '*' then ([], .block 0) else emit (.symbol '/') (begin c)
  | .line, c => ([], if isLineEnd c then .between else .line)
  | .block d, c =>
    ([], if c = '*' then .blockStar d else if c = '/' then .blockSlash d else .block d)
  | .blockStar d, c =>
    ([], if c = '/' then
        match d with
        | 0 => .between
        | d + 1 => .block d
      else if c = '*' then .blockStar d else .block d)
  | .blockSlash d, c =>
    ([], if c = '*' then .block (d + 1) else if c = '/' then .blockSlash d else .block d)
  | .quoted q cs, c => ([], if c = q.char then .closed q cs else .quoted q (c :: cs))
  -- a doubled quote stands for itself
  | .closed q cs, c =>
    if c = q.char then ([], .quoted q (c :: c :: cs)) else emit (.quoted q cs.reverse) (begin c)

def run : State → List Char → List Token × State
  | s, [] => ([], s)
  | s, c :: cs => ((step s c).1 ++ (run (step s c).2 cs).1, (run (step s c).2 cs).2)

def finish : State → List Token
  | .word cs => [.word cs.reverse]
  | .dash => [.symbol '-']
  | .slash => [.symbol '/']
  | .quoted q cs => [.unclosed q cs.reverse]
  | .closed q cs => [.quoted q cs.reverse]
  | _ => []

def tokens (text : List Char) : List Token :=
  (run .between text).1 ++ finish (run .between text).2

def State.isOutside : State → Bool
  | .line | .block _ | .blockStar _ | .blockSlash _ | .quoted _ _ => false
  | _ => true

theorem run_append (s : State) (u v : List Char) :
    run s (u ++ v) = ((run s u).1 ++ (run (run s u).2 v).1, (run (run s u).2 v).2) := by
  induction u generalizing s with
  | nil => rfl
  | cons c u ih =>
    rw [List.cons_append, run, ih, run, List.append_assoc]

def semicolon : Token := .symbol ';'

theorem begin_space (h : Text.isSpace c = true) : begin c = ([], .between) := if_pos h

theorem begin_trailer (hc : Text.isSpace c = true ∨ c = ';') : (begin c).2 = .between := by
  rcases hc with hc | rfl
  · rw [begin_space hc]
  · rfl

theorem not_wordChar (hc : Text.isSpace c = true ∨ c = ';') : isWordChar c = false := by
  rcases hc with hc | rfl
  · have hu : (c == '_') = false := by
      rw [beq_eq_false_iff_ne]
      rintro rfl
      cases hc
    have hd : (c == '$') = false := by
      rw [beq_eq_false_iff_ne]
      rintro rfl
      cases hc
    rw [isWordChar, Text.isAlphanum_of_isSpace hc, hu, hd, hc, Bool.not_true, Bool.and_false]
    rfl
  · rfl

theorem ne_of_trailer (hc : Text.isSpace c = true ∨ c = ';') (hx : Text.isSpace x = false)
    (hs : x ≠ ';') : c ≠ x := by
  rintro rfl
  rcases hc with hc | hc
  · rw [hx] at hc
    cases hc
  · exact hs hc

theorem step_trailer (ho : s.isOutside = true) (hc : Text.isSpace c = true ∨ c = ';') :
    step s c = (finish s ++ (begin c).1, .between) := by
  have hb : begin c = ((begin c).1, .between) := by rw [← begin_trailer hc]
  cases s with
  | between => exact hb
  | word cs =>
    rw [step, if_neg (by rw [not_wordChar hc]; exact Bool.false_ne_true), hb]
    rfl
  | dash =>
    rw [step, if_neg (ne_of_trailer hc rfl (by decide)), hb]
    rfl
  | slash =>
    rw [step, if_neg (ne_of_trailer hc rfl (by decide)), hb]
    rfl
  | closed q cs =>
    have hq : c ≠ q.char := by
      cases q <;> exact ne_of_trailer hc rfl (by decide)
    rw [step, if_neg hq, hb]
    rfl
  | _ => cases ho

theorem run_blanks (h : ∀ c ∈ u, Text.isSpace c = true) : run .between u = ([], .between) := by
  induction u with
  | nil => rfl
  | cons c u ih =>
    have hs : step .between c = ([], .between) := begin_space (h c List.mem_cons_self)
    rw [run, hs, ih fun c hc => h c (List.mem_cons_of_mem _ hc)]
    rfl

theorem run_dropWhile (u : List Char) :
    run .between (u.dropWhile Text.isSpace) = run .between u := by
  conv_rhs => rw [← List.takeWhile_append_dropWhile (p := Text.isSpace) (l := u), run_append,
    run_blanks fun c hc => List.mem_takeWhile_imp hc]
  rfl

theorem run_trailers (h : ∀ c ∈ u, Text.isSpace c = true ∨ c = ';') :
    ∃ n, run .between u = (List.replicate n semicolon, .between) := by
  induction u with
  | nil => exact ⟨0, rfl⟩
  | cons c u ih =>
    obtain ⟨n, hn⟩ := ih fun c hc => h c (List.mem_cons_of_mem _ hc)
    have hs : step .between c = ((begin c).1, .between) := step_trailer rfl (h c List.mem_cons_self)
    rw [run, hs, hn]
    rcases h c List.mem_cons_self with hc | rfl
    · exact ⟨n, by rw [begin_space hc]; rfl⟩
    · exact ⟨n + 1, rfl⟩

theorem tokens_trailers (ho : (run .between u).2.isOutside = true)
    (h : ∀ c ∈ v, Text.isSpace c = true ∨ c = ';') :
    ∃ n, tokens (u ++ v) = tokens u ++ List.replicate n semicolon := by
  cases v with
  | nil => exact ⟨0, by rw [List.append_nil, List.replicate_zero, List.append_nil]⟩
  | cons c v =>
    have hc := h c List.mem_cons_self
    obtain ⟨n, hn⟩ := run_trailers fun c hc => h c (List.mem_cons_of_mem _ hc)
    have hb : ∃ m, (begin c).1 = List.replicate m semicolon := by
      rcases hc with hc | rfl
      · exact ⟨0, by rw [begin_space hc]; rfl⟩
      · exact ⟨1, rfl⟩
    obtain ⟨m, hm⟩ := hb
    refine ⟨m + n, ?_⟩
    rw [tokens, run_append, run, step_trailer ho hc, hn, hm, tokens,
      ← List.replicate_append_replicate]
    simp only [List.append_assoc, finish, List.append_nil]

end QueryMind.Lib.SqlLexer
