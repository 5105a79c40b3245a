import QueryMind.Lib.Json
import QueryMind.Lib.Text

namespace QueryMind.Api
open Lib
set_option autoImplicit true

def sensitiveFieldNames : List String :=
  ["password", "refresh_token", "access_token", "raw_key", "api_key", "authorization"]

def kelvinSign : Char := Char.ofNat 0x212A

/-- `str.lower`, on the characters that become ASCII letters: the capitals and the Kelvin sign. -/
def lowerName (name : String) : String :=
  Text.lower (.ofList (name.toList.map fun c => if c = kelvinSign then 'k' else c))

def sensitive (name : String) : Bool := sensitiveFieldNames.contains (lowerName name)

/-- An entry of `RequestValidationError.errors()`. -/
structure ErrorDetails where
  type : String
  loc : List JsonKey
  msg : String
  input : Option Json
  ctx : Option Json

def keyText : JsonKey → String
  | .name k => k
  | .index i => i.repr

def encodeKey : JsonKey → Json
  | .name k => .str k
  | .index i => .num i

def redacts (loc : List JsonKey) : Bool :=
  match loc.getLast? with
  | none => false
  | some k => sensitive (keyText k)

namespace ErrorDetails

/-- The entry as a JSON object; a key without value is left out. -/
def encode (e : ErrorDetails) : Json :=
  .obj ([("type", .str e.type), ("loc", .arr (e.loc.map encodeKey)), ("msg", .str e.msg)] ++
    (e.input.map (Prod.mk "input")).toList ++ (e.ctx.map (Prod.mk "ctx")).toList)

def redact (e : ErrorDetails) : ErrorDetails :=
  if redacts e.loc then { e with input := none } else e

end ErrorDetails

/-- `_handle_validation_error`: the status and the content of the answer. -/
def handleValidationError (errors : List ErrorDetails) : Nat × Json :=
  (422, .obj [("detail", .arr (errors.map fun e => e.redact.encode))])

/-- Something Pydantic finds wrong with a body: of what type, where, and in which words. -/
structure Finding where
  type : String
  path : List JsonKey
  msg : String
  ctx : Option Json

namespace Finding

def place (f : Finding) : String × List JsonKey := (f.type, f.path)

def loc (f : Finding) : List JsonKey := .name "body" :: f.path

/-- The reported input is the value at the location, or the object in which a field is missing. -/
def inputPath (f : Finding) : List JsonKey :=
  if f.type = "missing" then f.path.dropLast else f.path

def report (f : Finding) (body : Json) : ErrorDetails where
  type := f.type
  loc := f.loc
  msg := f.msg
  input := body.at? f.inputPath
  ctx := f.ctx

end Finding

def respond (findings : List Finding) (body : Json) : Nat × Json :=
  handleValidationError (findings.map (·.report body))

theorem ErrorDetails.encode_eq_iff {e e' : ErrorDetails} (hl : e.loc = e'.loc) :
    e.encode = e'.encode ↔ e = e' := by
  constructor
  · intro h
    obtain ⟨type, loc, msg, input, ctx⟩ := e
    obtain ⟨type', loc', msg', input', ctx'⟩ := e'
    cases hl
    simp only [encode, Json.obj.injEq, List.cons_append, List.nil_append, List.cons.injEq,
      Prod.mk.injEq, Json.str.injEq, true_and] at h
    obtain ⟨rfl, rfl, h⟩ := h
    have hio : input = input' ∧ ctx = ctx' := by
      cases input <;> cases input' <;> cases ctx <;> cases ctx' <;> simp_all
    rw [hio.1, hio.2]
  · intro h
    rw [h]

theorem Finding.redact_eq_iff {f f' : Finding} (hp : f.place = f'.place) (body body' : Json) :
    (f.report body).redact.encode = (f'.report body').redact.encode ↔
      f.msg = f'.msg ∧ f.ctx = f'.ctx ∧
        (redacts f.loc = false → body.at? f.inputPath = body'.at? f.inputPath) := by
  obtain ⟨type, path, msg, ctx⟩ := f
  obtain ⟨type', path', msg', ctx'⟩ := f'
  cases hp
  cases hr : redacts (Finding.loc ⟨type, path, msg, ctx⟩) with
  | true =>
    have hr' : redacts (Finding.loc ⟨type, path, msg', ctx'⟩) = true := hr
    simp only [ErrorDetails.redact, report, hr, hr', if_true]
    refine (ErrorDetails.encode_eq_iff ?_).trans ?_
    · rfl
    · simp [loc]
  | false =>
    have hr' : redacts (Finding.loc ⟨type, path, msg', ctx'⟩) = false := hr
    simp only [ErrorDetails.redact, report, hr, hr', Bool.false_eq_true, if_false]
    refine (ErrorDetails.encode_eq_iff ?_).trans ?_
    · rfl
    · simp only [ErrorDetails.mk.injEq, loc, inputPath, true_and, forall_const]
      constructor
      · intro ⟨hm, hi, hc⟩
        exact ⟨hm, hc, hi⟩
      · intro ⟨hm, hc, hi⟩
        exact ⟨hm, hi, hc⟩

theorem respond_eq_iff {r r' : List Finding} (hr : r.map (·.place) = r'.map (·.place))
    (body body' : Json) : respond r body = respond r' body' ↔
      ∀ p ∈ r.zip r', (p.1.report body).redact.encode = (p.2.report body').redact.encode := by
  simp only [respond, handleValidationError, Prod.mk.injEq, true_and, Json.obj.injEq,
    List.cons.injEq, and_true, Json.arr.injEq, List.map_map]
  induction r generalizing r' with
  | nil =>
    cases r' with
    | nil => simp
    | cons f' r' => cases hr
  | cons f r ih =>
    cases r' with
    | nil => cases hr
    | cons f' r' =>
      obtain ⟨_, hr⟩ := List.cons.inj hr
      rw [List.map_cons, List.map_cons, List.cons.injEq, ih hr, List.zip_cons_cons]
      simp only [Function.comp, List.mem_cons, forall_eq_or_imp]

/-- For bodies that differ in sensitive values only, and fail at the same places, the answers agree
exactly when the errors are told in the same words and no unredacted one exposes a difference. -/
theorem response_independent {body body' : Json} {r r' : List Finding}
    (hb : body.mask sensitive = body'.mask sensitive)
    (hr : r.map (·.place) = r'.map (·.place)) :
    respond r body = respond r' body' ↔
      ∀ p ∈ r.zip r', p.1.msg = p.2.msg ∧ p.1.ctx = p.2.ctx ∧
        (redacts p.1.loc = false → Json.exposed sensitive p.1.inputPath body =
          Json.exposed sensitive p.1.inputPath body') := by
  rw [respond_eq_iff hr]
  apply forall₂_congr
  intro p hp
  have hplace : p.1.place = p.2.place := by
    obtain ⟨i, hi⟩ := List.mem_iff_getElem?.1 hp
    obtain ⟨h₁, h₂⟩ := List.getElem?_zip_eq_some.1 hi
    have he := congrArg (·[i]?) hr
    simp only [List.getElem?_map, h₁, h₂, Option.map_some, Option.some.injEq] at he
    exact he
  rw [Finding.redact_eq_iff hplace, Json.at?_eq_iff sensitive _ hb]

def registration (password : String) : Json :=
  .obj [("username", .str "alice"), ("email", .str "alice@example.com"),
    ("password", .str password)]

def passwordTooShort : Finding where
  type := "string_too_short"
  path := [.name "password"]
  msg := "String should have at least 8 characters"
  ctx := some (.obj [("min_length", .num 8)])

theorem response_independent_short :
    respond [passwordTooShort] (registration "hunter2") =
      respond [passwordTooShort] (registration "hunter3") := by
  apply (response_independent rfl rfl).2
  intro p hp
  rw [List.mem_singleton.1 hp]
  exact ⟨rfl, rfl, fun h => absurd h (by decide)⟩

def loginWithoutName (password : String) : Json := .obj [("password", .str password)]

def usernameMissing : Finding where
  type := "missing"
  path := [.name "username"]
  msg := "Field required"
  ctx := none

/-- The answer to a login without username carries the password. -/
theorem missing_field_leaks :
    (loginWithoutName "hunter2").mask sensitive = (loginWithoutName "hunter3").mask sensitive ∧
      respond [usernameMissing] (loginWithoutName "hunter2") ≠
        respond [usernameMissing] (loginWithoutName "hunter3") := by
  constructor
  · rfl
  · intro h
    rw [respond_eq_iff rfl] at h
    have hsame := h (usernameMissing, usernameMissing) (.head _)
    have hplain : redacts usernameMissing.loc = false := by decide
    have hi := ((Finding.redact_eq_iff rfl _ _).1 hsame).2.2 hplain
    simp [usernameMissing, Finding.inputPath, Json.at?, loginWithoutName] at hi

end QueryMind.Api
