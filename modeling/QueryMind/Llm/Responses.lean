import Mathlib.Algebra.Field.Rat
import QueryMind.Llm.Providers

namespace QueryMind.Llm
open Lib
set_option autoImplicit true

/-- A response, or the error declared for its kind of status. -/
def Contained (statusCode : Nat) : Except ProviderFailure LLMResponse → Prop
  | .ok _ => True
  | .error (.llm (.responseParsingError _)) => statusCode < 400
  | .error (.llm (.transientError _)) | .error (.llm (.permanentError _)) => 400 ≤ statusCode
  | .error (.escaped _) => False

/-- A reason that is looked up in the table is not a list or a dictionary with something in it. -/
def ResponseShape.reasonHashable (shape : ResponseShape) (holder : PyValue) : Bool :=
  let reason := (holder.member shape.reason).getD .none
  !reason.truthy || reason.isHashable

/-- A body whose text can be read, with both counts, one of which is not a number of tokens; or
with accepted counts and a model, but a model or text that is no string, or a reason that no table
is keyed by. -/
inductive Mistyped (shape : ResponseShape) (v : FieldValidators)
    (reads : PyValue → PyValue → Prop) (rawResponse : PyValue) : Prop
  | counts (hr : reads text holder) (hu : rawResponse.member "usage" = some usage)
      (hp : usage.member shape.promptTokens = some promptTokens)
      (hc : usage.member shape.completionTokens = some completionTokens)
      (h : v.tokens promptTokens = none ∨ v.tokens completionTokens = none)
  | fields (hr : reads text holder) (hu : rawResponse.member "usage" = some usage)
      (hp : usage.member shape.promptTokens = some promptTokens)
      (hc : usage.member shape.completionTokens = some completionTokens)
      (hpn : v.tokens promptTokens = some p) (hcn : v.tokens completionTokens = some c)
      (hm : rawResponse.member "model" = some model)
      (h : v.text model = none ∨ v.text text = none ∨ shape.reasonHashable holder = false)

/-- What both providers' parsers have in common. -/
structure ResponseShape.Regular (shape : ResponseShape) : Prop where
  keyError : ∀ text, shape.caught (.keyError text) = true
  typeError : ∀ text, shape.caught (.typeError text) = true
  attributeError : ∀ text, shape.caught (.attributeError text) = false
  validationError : shape.caught .validationError = false
  holder : ∀ rawResponse text holder,
    shape.readText rawResponse = .ok (text, holder) → holder.isDict = true

section
variable {shape : ResponseShape} {v : FieldValidators} {rawResponse : PyValue}

theorem ResponseShape.Regular.subscript_caught (hs : shape.Regular) {value : PyValue}
    (h : value.subscript key = .error exc) : shape.caught exc = true := by
  rcases PyValue.subscript_error h with ⟨text, rfl⟩ | ⟨text, rfl⟩
  · exact hs.keyError text
  · exact hs.typeError text

theorem tokenUsage_ok : v.tokenUsage promptTokens completionTokens = .ok tokenUsage ↔
    v.tokens promptTokens = some tokenUsage.promptTokens ∧
      v.tokens completionTokens = some tokenUsage.completionTokens := by
  rw [FieldValidators.tokenUsage]
  cases v.tokens promptTokens with
  | none => exact iff_of_false (fun h => by cases h) (fun h => by cases h.1)
  | some p =>
    cases v.tokens completionTokens with
    | none => exact iff_of_false (fun h => by cases h) (fun h => by cases h.2)
    | some c =>
      obtain ⟨p', c'⟩ := tokenUsage
      simp only [Except.ok.injEq, TokenUsage.mk.injEq, Option.some.injEq]

theorem tokenUsage_error : v.tokenUsage promptTokens completionTokens = .error exc ↔
    exc = .validationError ∧ (v.tokens promptTokens = none ∨ v.tokens completionTokens = none) := by
  rw [FieldValidators.tokenUsage]
  cases v.tokens promptTokens with
  | none => simp only [Except.error.injEq, true_or, and_true, eq_comm]
  | some p =>
    cases v.tokens completionTokens with
    | none => simp only [Except.error.injEq, or_true, and_true, eq_comm]
    | some c => simp only [reduceCtorEq, or_self, and_false]

def Reaches (shape : ResponseShape) (v : FieldValidators) (rawResponse : PyValue)
    (tokenUsage : TokenUsage) (model : PyValue) : Prop :=
  ∃ usage promptTokens completionTokens, rawResponse.member "usage" = some usage ∧
    usage.member shape.promptTokens = some promptTokens ∧
    usage.member shape.completionTokens = some completionTokens ∧
    v.tokens promptTokens = some tokenUsage.promptTokens ∧
    v.tokens completionTokens = some tokenUsage.completionTokens ∧
    rawResponse.member "model" = some model

theorem fields_ok : shape.fields v rawResponse = .ok (text, holder, tokenUsage, model) ↔
    shape.readText rawResponse = .ok (text, holder) ∧
      Reaches shape v rawResponse tokenUsage model := by
  constructor
  · intro h
    obtain ⟨read, hr, h⟩ := bind_ok h
    obtain ⟨usage, hu, h⟩ := bind_ok h
    obtain ⟨promptTokens, hp, h⟩ := bind_ok h
    obtain ⟨completionTokens, hc, h⟩ := bind_ok h
    obtain ⟨tokens, ht, h⟩ := bind_ok h
    obtain ⟨model', hm, h⟩ := bind_ok h
    cases h
    obtain ⟨hpn, hcn⟩ := tokenUsage_ok.1 ht
    exact ⟨hr, usage, promptTokens, completionTokens, PyValue.subscript_ok.1 hu,
      PyValue.subscript_ok.1 hp, PyValue.subscript_ok.1 hc, hpn, hcn, PyValue.subscript_ok.1 hm⟩
  · rintro ⟨hr, usage, promptTokens, completionTokens, hu, hp, hc, hpn, hcn, hm⟩
    rw [ResponseShape.fields, hr, ok_bind, PyValue.subscript_ok.2 hu, ok_bind,
      PyValue.subscript_ok.2 hp, ok_bind, PyValue.subscript_ok.2 hc, ok_bind,
      tokenUsage_ok.2 ⟨hpn, hcn⟩, ok_bind, PyValue.subscript_ok.2 hm, ok_bind]
    rfl

theorem fields_error (hs : shape.Regular) (h : shape.fields v rawResponse = .error exc) :
    shape.readText rawResponse = .error exc ∨ shape.caught exc = true ∨
      Mistyped shape v (fun text holder => shape.readText rawResponse = .ok (text, holder))
        rawResponse := by
  rcases bind_error h with h | ⟨⟨text, holder⟩, hr, h⟩
  · exact .inl h
  right
  rcases bind_error h with h | ⟨usage, hu, h⟩
  · exact .inl (hs.subscript_caught h)
  rcases bind_error h with h | ⟨promptTokens, hp, h⟩
  · exact .inl (hs.subscript_caught h)
  rcases bind_error h with h | ⟨completionTokens, hc, h⟩
  · exact .inl (hs.subscript_caught h)
  rcases bind_error h with h | ⟨tokens, _, h⟩
  · exact .inr (.counts hr (PyValue.subscript_ok.1 hu) (PyValue.subscript_ok.1 hp)
      (PyValue.subscript_ok.1 hc) (tokenUsage_error.1 h).2)
  rcases bind_error h with h | ⟨model, _, h⟩
  · exact .inl (hs.subscript_caught h)
  · cases h

theorem fields_rejected (hr : shape.readText rawResponse = .ok (text, holder))
    (hu : rawResponse.member "usage" = some usage)
    (hp : usage.member shape.promptTokens = some promptTokens)
    (hc : usage.member shape.completionTokens = some completionTokens)
    (h : v.tokens promptTokens = none ∨ v.tokens completionTokens = none) :
    shape.fields v rawResponse = .error .validationError := by
  rw [ResponseShape.fields, hr, ok_bind, PyValue.subscript_ok.2 hu, ok_bind,
    PyValue.subscript_ok.2 hp, ok_bind, PyValue.subscript_ok.2 hc, ok_bind,
    tokenUsage_error.2 ⟨rfl, h⟩, error_bind]

theorem response_error (hd : holder.isDict = true) (latencyMs : Rat) (text : PyValue)
    (tokenUsage : TokenUsage) (model : PyValue) :
    (∃ exc, shape.response v latencyMs text holder tokenUsage model = .error exc) ↔
      v.text model = none ∨ v.text text = none ∨ shape.reasonHashable holder = false := by
  rw [ResponseShape.response, PyValue.get_dict hd, ok_bind]
  have hkey : (if ((holder.member shape.reason).getD .none).truthy then
      (holder.member shape.reason).getD .none else .str "").isHashable =
        shape.reasonHashable holder := by
    rw [ResponseShape.reasonHashable]
    cases ((holder.member shape.reason).getD .none).truthy <;> rfl
  cases hh : shape.reasonHashable holder with
  | false =>
    obtain ⟨text', he⟩ := PyValue.lookupIn_unhashable (hkey.trans hh) shape.finishReasonMap .error
    rw [he, error_bind]
    exact iff_of_true ⟨_, rfl⟩ (.inr (.inr rfl))
  | true =>
    obtain ⟨finishReason, he⟩ := PyValue.lookupIn_hashable (hkey.trans hh) shape.finishReasonMap
      FinishReason.error
    rw [he, ok_bind]
    cases v.text model with
    | none => exact iff_of_true ⟨_, rfl⟩ (.inl rfl)
    | some m =>
      cases v.text text with
      | none => exact iff_of_true ⟨_, rfl⟩ (.inr (.inl rfl))
      | some t =>
        apply iff_of_false
        · rintro ⟨exc, h⟩
          cases h
        · rintro (h | h | h) <;> cases h

theorem parse_error (h : shape.fields v rawResponse = .error exc) (latencyMs : Rat) :
    shape.parse v rawResponse latencyMs =
      if shape.caught exc then .error (.llm (.responseParsingError
        s!"Malformed {shape.label} response: missing {exceptionText exc}."))
      else .error (.escaped exc) := by
  rw [ResponseShape.parse, h]

theorem parse_ok (h : shape.fields v rawResponse = .ok (text, holder, tokenUsage, model))
    (latencyMs : Rat) : shape.parse v rawResponse latencyMs =
      (shape.response v latencyMs text holder tokenUsage model).mapError .escaped := by
  rw [ResponseShape.parse, h]

theorem parse_contained (hs : shape.Regular) (latencyMs : Rat) (hlt : statusCode < 400)
    (herr : ∀ exc, shape.readText rawResponse = .error exc → shape.caught exc = true) :
    Contained statusCode (shape.parse v rawResponse latencyMs) ↔
      ¬Mistyped shape v (fun text holder => shape.readText rawResponse = .ok (text, holder))
        rawResponse := by
  cases hf : shape.fields v rawResponse with
  | error exc =>
    rw [parse_error hf]
    cases hc : shape.caught exc with
    | true =>
      apply iff_of_true hlt
      intro hm
      cases hm with
      | counts hr hu hp hct hbad =>
        rw [fields_rejected hr hu hp hct hbad] at hf
        cases hf
        rw [hs.validationError] at hc
        cases hc
      | fields hr hu hp hct hpn hcn hm _ =>
        have hok : shape.fields v rawResponse = .ok (_, _, ⟨_, _⟩, _) :=
          fields_ok.2 ⟨hr, _, _, _, hu, hp, hct, hpn, hcn, hm⟩
        rw [hok] at hf
        cases hf
    | false =>
      apply iff_of_false id
      apply not_not_intro
      rcases fields_error hs hf with h | h | h
      · exact absurd (herr exc h) (Bool.eq_false_iff.1 hc)
      · exact absurd h (Bool.eq_false_iff.1 hc)
      · exact h
  | ok read =>
    obtain ⟨text, holder, tokenUsage, model⟩ := read
    obtain ⟨hr, usage, promptTokens, completionTokens, hu, hp, hct, hpn, hcn, hm⟩ := fields_ok.1 hf
    have hresp : (∃ e, shape.response v latencyMs text holder tokenUsage model = .error e) ↔ _ :=
      response_error (hs.holder _ _ _ hr) latencyMs text tokenUsage model
    rw [parse_ok hf]
    cases he : shape.response v latencyMs text holder tokenUsage model with
    | error exc =>
      exact iff_of_false id (not_not_intro (.fields hr hu hp hct hpn hcn hm (hresp.1 ⟨exc, he⟩)))
    | ok r =>
      apply iff_of_true trivial
      intro hmis
      cases hmis with
      | counts hr' hu' hp' hct' hbad =>
        rw [fields_rejected hr' hu' hp' hct' hbad] at hf
        cases hf
      | fields hr' hu' hp' hct' hpn' hcn' hm' hbad =>
        rw [hr] at hr'
        cases hr'
        rw [hm] at hm'
        cases hm'
        obtain ⟨exc, hexc⟩ := hresp.2 hbad
        rw [he] at hexc
        cases hexc

theorem parse_escapes (hr : shape.readText rawResponse = .error exc)
    (hc : shape.caught exc = false) (latencyMs : Rat) :
    ¬Contained statusCode (shape.parse v rawResponse latencyMs) := by
  have hf : shape.fields v rawResponse = .error exc := by
    rw [ResponseShape.fields, hr, error_bind]
  rw [parse_error hf, hc]
  exact id

theorem errorMessage_dict (hd : rawResponse.isDict = true) (shape : ResponseShape)
    (display : PyValue → String) (statusCode : Nat) :
    ∃ message, shape.errorMessage display rawResponse statusCode = .ok message := by
  rw [ResponseShape.errorMessage, PyValue.get_dict hd]
  exact ⟨_, rfl⟩

theorem errorMessage_other (hd : rawResponse.isDict = false) (shape : ResponseShape)
    (display : PyValue → String) (statusCode : Nat) :
    ∃ exc, shape.errorMessage display rawResponse statusCode = .error exc := by
  rw [ResponseShape.errorMessage, PyValue.get_other hd]
  exact ⟨_, rfl⟩

theorem error_contained (hge : 400 ≤ statusCode) (display : PyValue → String)
    (url timeout : String) (elapsed : NNRat) :
    Contained statusCode (shape.generate v display url timeout
      (.response statusCode (some rawResponse)) elapsed) ↔ rawResponse.isDict = true := by
  have hg : shape.generate v display url timeout (.response statusCode (some rawResponse)) elapsed =
      ((shape.errorMessage display rawResponse statusCode).mapError .escaped >>= fun message =>
        if statusCode ∈ retryableStatusCodes then .error (.llm (.transientError message))
        else .error (.llm (.permanentError message))) := if_pos hge
  rw [hg]
  cases hd : rawResponse.isDict with
  | true =>
    obtain ⟨message, hm⟩ := errorMessage_dict hd shape display statusCode
    have hmap : (Except.ok message).mapError ProviderFailure.escaped = .ok message := rfl
    rw [hm, hmap, ok_bind]
    apply iff_of_true _ rfl
    by_cases hs : statusCode ∈ retryableStatusCodes
    · rw [if_pos hs]
      exact hge
    · rw [if_neg hs]
      exact hge
  | false =>
    obtain ⟨exc, hm⟩ := errorMessage_other hd shape display statusCode
    rw [hm]
    exact iff_of_false id Bool.false_ne_true

theorem generate_success (hlt : statusCode < 400) (display : PyValue → String)
    (url timeout : String) (elapsed : NNRat) :
    shape.generate v display url timeout (.response statusCode (some rawResponse)) elapsed =
      shape.parse v rawResponse (elapsed * 1000) := if_neg (Nat.not_le.2 hlt)

theorem mistyped_congr {reads reads' : PyValue → PyValue → Prop}
    (h : ∀ text holder, reads text holder ↔ reads' text holder) :
    Mistyped shape v reads rawResponse ↔ Mistyped shape v reads' rawResponse := by
  have he : reads = reads' := funext fun text => funext fun holder => propext (h text holder)
  rw [he]

end

namespace Claude

def isText (block : PyValue) : Bool :=
  ((block.member "type").getD .none).asString = some "text"

def textOf (block : PyValue) : PyValue := (block.member "text").getD (.str "")

/-- Something in the content is not a block: an item of a list, a letter of a string or a key. -/
def BadBlock (rawResponse : PyValue) : Prop :=
  ∃ contentBlocks blocks, rawResponse.member "content" = some contentBlocks ∧
    contentBlocks.iterate = .ok blocks ∧ ∃ block ∈ blocks, block.isDict = false

/-- The content is of blocks, and the text blocks among them are of strings. -/
def Reads (rawResponse text holder : PyValue) : Prop :=
  ∃ contentBlocks blocks, ∃ texts : List String, rawResponse.member "content" = some contentBlocks ∧
    contentBlocks.iterate = .ok blocks ∧ (∀ block ∈ blocks, block.isDict = true) ∧
    (blocks.filter isText).map textOf = texts.map .str ∧
    text = .str (texts.foldr (· ++ ·) "") ∧ holder = rawResponse

theorem textBlocks_dict (h : ∀ block ∈ blocks, block.isDict = true) :
    textBlocks blocks = .ok ((blocks.filter isText).map textOf) := by
  induction blocks with
  | nil => rfl
  | cons block blocks ih =>
    rw [List.forall_mem_cons] at h
    rw [textBlocks, PyValue.get_dict h.1, ok_bind, PyValue.get_dict h.1, ok_bind, ih h.2]
    by_cases ht : ((block.member "type").getD .none).asString = some "text"
    · have hf : isText block = true := decide_eq_true ht
      rw [if_pos ht, List.filter_cons_of_pos hf]
      rfl
    · have hf : ¬isText block = true := fun h => ht (of_decide_eq_true h)
      rw [if_neg ht, List.filter_cons_of_neg hf]

theorem textBlocks_other (h : ∃ block ∈ blocks, block.isDict = false) :
    ∃ text, textBlocks blocks = .error (.attributeError text) := by
  induction blocks with
  | nil =>
    obtain ⟨block, hb, _⟩ := h
    cases hb
  | cons block blocks ih =>
    rw [textBlocks]
    cases hd : block.isDict with
    | false =>
      rw [PyValue.get_other hd, error_bind]
      exact ⟨_, rfl⟩
    | true =>
      have hrest : ∃ b ∈ blocks, b.isDict = false := by
        obtain ⟨b, hb, hf⟩ := h
        rcases List.mem_cons.1 hb with rfl | hb
        · rw [hd] at hf
          cases hf
        · exact ⟨b, hb, hf⟩
      obtain ⟨text, he⟩ := ih hrest
      rw [PyValue.get_dict hd, ok_bind, PyValue.get_dict hd, ok_bind, he]
      refine ⟨text, ?_⟩
      split
      · rfl
      · rfl

theorem readText_ok :
    shape.readText rawResponse = .ok (text, holder) ↔ Reads rawResponse text holder := by
  constructor
  · intro h
    obtain ⟨contentBlocks, hc, h⟩ := bind_ok h
    obtain ⟨blocks, hb, h⟩ := bind_ok h
    obtain ⟨found, hf, h⟩ := bind_ok h
    obtain ⟨joined, hj, h⟩ := bind_ok h
    cases h
    have hd : ∀ block ∈ blocks, block.isDict = true := by
      intro block hblock
      apply Bool.eq_true_of_not_eq_false
      intro hn
      obtain ⟨_, he⟩ := textBlocks_other ⟨block, hblock, hn⟩
      rw [hf] at he
      cases he
    rw [textBlocks_dict hd] at hf
    cases hf
    obtain ⟨texts, ht, rfl⟩ := PyValue.join_ok.1 hj
    exact ⟨contentBlocks, blocks, texts, PyValue.subscript_ok.1 hc, hb, hd, ht, rfl, rfl⟩
  · rintro ⟨contentBlocks, blocks, texts, hc, hb, hd, ht, rfl, rfl⟩
    have hr : shape.readText holder = (holder.subscript "content" >>= fun contentBlocks =>
      contentBlocks.iterate >>= fun blocks => textBlocks blocks >>= fun found =>
        PyValue.join 0 found >>= fun text => pure (.str text, holder)) := rfl
    rw [hr, PyValue.subscript_ok.2 hc, ok_bind, hb, ok_bind, textBlocks_dict hd, ok_bind,
      PyValue.join_ok.2 ⟨texts, ht, rfl⟩]
    rfl

theorem regular : shape.Regular where
  keyError _ := rfl
  typeError _ := rfl
  attributeError _ := rfl
  validationError := rfl
  holder := by
    intro rawResponse text holder h
    obtain ⟨_, _, _, hc, _, _, _, _, rfl⟩ := readText_ok.1 h
    exact PyValue.isDict_of_member hc

theorem readText_bad (h : BadBlock rawResponse) :
    ∃ text, shape.readText rawResponse = .error (.attributeError text) := by
  obtain ⟨contentBlocks, blocks, hc, hb, hbad⟩ := h
  obtain ⟨text, he⟩ := textBlocks_other hbad
  have hr : shape.readText rawResponse = (rawResponse.subscript "content" >>= fun contentBlocks =>
    contentBlocks.iterate >>= fun blocks => textBlocks blocks >>= fun found =>
      PyValue.join 0 found >>= fun text => pure (.str text, rawResponse)) := rfl
  rw [hr, PyValue.subscript_ok.2 hc, ok_bind, hb, ok_bind, he]
  exact ⟨text, rfl⟩

theorem readText_error (hn : ¬BadBlock rawResponse)
    (h : shape.readText rawResponse = .error exc) : shape.caught exc = true := by
  rcases bind_error h with h | ⟨contentBlocks, hc, h⟩
  · exact regular.subscript_caught h
  rcases bind_error h with h | ⟨blocks, hb, h⟩
  · obtain ⟨text, rfl⟩ := PyValue.iterate_error h
    rfl
  have hd : ∀ block ∈ blocks, block.isDict = true := by
    intro block hblock
    apply Bool.eq_true_of_not_eq_false
    intro hf
    exact hn ⟨contentBlocks, blocks, PyValue.subscript_ok.1 hc, hb, block, hblock, hf⟩
  rw [textBlocks_dict hd, ok_bind] at h
  rcases bind_error h with h | ⟨joined, _, h⟩
  · obtain ⟨text, rfl⟩ := PyValue.join_error h
    rfl
  · cases h

end Claude

namespace Groq

/-- The first choice has a message with a content, which counts as empty when it is falsy. -/
def Reads (rawResponse text holder : PyValue) : Prop :=
  ∃ choices message content, rawResponse.member "choices" = some choices ∧
    choices.first = .ok holder ∧ holder.member "message" = some message ∧
    message.member "content" = some content ∧ text = if content.truthy then content else .str ""

theorem readText_ok :
    shape.readText rawResponse = .ok (text, holder) ↔ Reads rawResponse text holder := by
  constructor
  · intro h
    obtain ⟨choices, hc, h⟩ := bind_ok h
    obtain ⟨choice, hf, h⟩ := bind_ok h
    obtain ⟨message, hm, h⟩ := bind_ok h
    obtain ⟨content, ht, h⟩ := bind_ok h
    cases h
    exact ⟨choices, message, content, PyValue.subscript_ok.1 hc, hf, PyValue.subscript_ok.1 hm,
      PyValue.subscript_ok.1 ht, rfl⟩
  · rintro ⟨choices, message, content, hc, hf, hm, ht, rfl⟩
    have hr : shape.readText rawResponse = (rawResponse.subscript "choices" >>= fun choices =>
      choices.first >>= fun choice => choice.subscript "message" >>= fun message =>
        message.subscript "content" >>= fun content =>
          pure (if content.truthy then content else .str "", choice)) := rfl
    rw [hr, PyValue.subscript_ok.2 hc, ok_bind, hf, ok_bind, PyValue.subscript_ok.2 hm, ok_bind,
      PyValue.subscript_ok.2 ht]
    rfl

theorem regular : shape.Regular where
  keyError _ := rfl
  typeError _ := rfl
  attributeError _ := rfl
  validationError := rfl
  holder := by
    intro rawResponse text holder h
    obtain ⟨_, _, _, _, _, hm, _⟩ := readText_ok.1 h
    exact PyValue.isDict_of_member hm

theorem readText_error (h : shape.readText rawResponse = .error exc) :
    shape.caught exc = true := by
  rcases bind_error h with h | ⟨choices, _, h⟩
  · exact regular.subscript_caught h
  rcases bind_error h with h | ⟨choice, _, h⟩
  · rcases PyValue.first_error h with ⟨text, rfl⟩ | ⟨text, rfl⟩ | ⟨text, rfl⟩ <;> rfl
  rcases bind_error h with h | ⟨message, _, h⟩
  · exact regular.subscript_caught h
  rcases bind_error h with h | ⟨content, _, h⟩
  · exact regular.subscript_caught h
  · cases h

end Groq

/-- Each provider returns or raises one of its errors exactly where an error's body is a dictionary
and a success body is neither mistyped nor, for Claude, of something other than blocks. -/
theorem generate_contained_iff (v : FieldValidators) (display : PyValue → String)
    (url timeout : String) (statusCode : Nat) (body : PyValue) (elapsed : NNRat) :
    (Contained statusCode (Claude.shape.generate v display url timeout
      (.response statusCode (some body)) elapsed) ↔
        if 400 ≤ statusCode then body.isDict = true
        else ¬Claude.BadBlock body ∧ ¬Mistyped Claude.shape v (Claude.Reads body) body) ∧
    (Contained statusCode (Groq.shape.generate v display url timeout
      (.response statusCode (some body)) elapsed) ↔
        if 400 ≤ statusCode then body.isDict = true
        else ¬Mistyped Groq.shape v (Groq.Reads body) body) := by
  by_cases hge : 400 ≤ statusCode
  · rw [if_pos hge, if_pos hge]
    exact ⟨error_contained hge display url timeout elapsed,
      error_contained hge display url timeout elapsed⟩
  · have hlt := Nat.lt_of_not_le hge
    rw [if_neg hge, if_neg hge, generate_success hlt, generate_success hlt]
    constructor
    · by_cases hb : Claude.BadBlock body
      · obtain ⟨text, he⟩ := Claude.readText_bad hb
        exact iff_of_false (parse_escapes he rfl _) (fun h => h.1 hb)
      · rw [parse_contained Claude.regular _ hlt fun exc h => Claude.readText_error hb h,
          mistyped_congr fun text holder => Claude.readText_ok]
        exact (and_iff_right hb).symm
    · rw [parse_contained Groq.regular _ hlt fun exc h => Groq.readText_error h,
        mistyped_congr fun text holder => Groq.readText_ok]

/-- Pydantic's lax validation, of strings as far as they are plain digits. -/
def laxValidators : FieldValidators where
  tokens
    | .int i => if 0 ≤ i then some i.toNat else none
    | .bool b => some b.toNat
    | .float q => if q.den = 1 ∧ 0 ≤ q then some q.num.toNat else none
    | .str s => s.toNat?
    | .none | .list _ | .dict _ => none
  text := PyValue.asString

/-- A message of one text block whose count of input tokens is null. -/
def nullCount : PyValue :=
  .dict [("content", .list [.dict [("type", .str "text"), ("text", .str "SELECT 1")]]),
    ("usage", .dict [("input_tokens", .none), ("output_tokens", .int 2)]),
    ("model", .str "claude-sonnet-5")]

theorem generate_escapes (display : PyValue → String) (elapsed : NNRat) :
    Claude.shape.generate laxValidators display "https://api.anthropic.com/v1/messages" "30.0"
        (.response 200 (some nullCount)) elapsed = .error (.escaped .validationError) ∧
      Groq.shape.generate laxValidators display "https://api.groq.com/openai/v1/chat/completions"
        "30.0" (.response 502 (some (.list []))) elapsed =
          .error (.escaped (.attributeError "'list' object has no attribute 'get'")) := ⟨rfl, rfl⟩

theorem generate_not_contained :
    ¬Contained 200 (Claude.shape.generate laxValidators PyValue.typeName
        "https://api.anthropic.com/v1/messages" "30.0" (.response 200 (some nullCount)) 1) ∧
      ¬Contained 502 (Groq.shape.generate laxValidators PyValue.typeName
        "https://api.groq.com/openai/v1/chat/completions" "30.0"
        (.response 502 (some (.list []))) 1) := by
  obtain ⟨hc, hg⟩ := generate_escapes PyValue.typeName 1
  rw [hc, hg]
  exact ⟨id, id⟩

end QueryMind.Llm
