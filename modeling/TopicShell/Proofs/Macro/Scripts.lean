import TopicShell.Proofs.Macro.Invocations
import Mathlib.Data.List.Basic

/-!
# Scripts that fail

A macro of a script is rendered once for each value of its last argument.  A rendering that raises an error
that is reported yields no line, and the next value is taken (`Renders`).  An error that is not reported ends
the expansion (`Stops`), whatever the other values are; `script_yields_lines_iff` says that nothing else does.
-/

namespace TopicShell.Macro

open Line

variable {ε σ : Type}

/-- What is written when a script fails. -/
def failureText (message : String) : String :=
  "Error while execute macro script: " ++ message ++ "\n"

/-- A rendering comes first, and what it leaves behind is gone on with. -/
theorem renderLines_render (engine : Engine ε σ) (n : String) (s : Spec) (values : List String) (pipe : String)
    (w : σ) :
    (renderLines engine n s values pipe).run w =
      ((match (engine.render n s (argumentNames values) w).1 with
        | .ok text => pure ((linesOf text).map (attachPipe pipe))
        | .error e =>
          match engine.report? e with
          | some m => say engine (failureText m) >>= fun _ => pure []
          | none => throw (ExpansionError.script e)) : Expanding ε σ (List String)).run
        (engine.render n s (argumentNames values) w).2 :=
  rfl

theorem renderLines_run (engine : Engine ε σ) (n : String) (s : Spec) (values : List String) (pipe : String)
    (w : σ) :
    (renderLines engine n s values pipe).run w =
      match engine.render n s (argumentNames values) w with
      | (.ok text, w') => (.ok ((linesOf text).map (attachPipe pipe)), w')
      | (.error e, w') =>
        match engine.report? e with
        | some m => (.ok [], engine.write (failureText m) w')
        | none => (.error (.script e), w') := by
  rw [renderLines_render]
  cases engine.render n s (argumentNames values) w with
  | mk r w' =>
    cases r with
    | ok text => rfl
    | error e =>
      simp only
      cases engine.report? e <;> rfl

/-! ## Renderings one after the other -/

/-- The values that a script is rendered with, one row for each value of the last argument. -/
def rows (s : Spec) (arguments : List String) : List (List String) :=
  if s.arguments = [] then [[]]
  else (arguments.drop (s.arguments.length - 1)).map (arguments.take (s.arguments.length - 1) ++ [·])

section Rendering

variable (engine : Engine ε σ) (n : String) (s : Spec) (pipe : String)

/-- The renderings for some rows of values, one after the other, none of which raises an error that is not
reported: the lines they yield, and the world before and after them. -/
inductive Renders : List (List String) → σ → List String → σ → Prop where
  | done (w : σ) : Renders [] w [] w
  | text {values : List String} {rest : List (List String)} {w w₁ w₂ : σ} {text : String} {lines : List String}
      (h : engine.render n s (argumentNames values) w = (.ok text, w₁))
      (hrest : Renders rest w₁ lines w₂) :
      Renders (values :: rest) w ((linesOf text).map (attachPipe pipe) ++ lines) w₂
  | failure {values : List String} {rest : List (List String)} {w w₁ w₂ : σ} {e : ε} {m : String}
      {lines : List String} (h : engine.render n s (argumentNames values) w = (.error e, w₁))
      (hm : engine.report? e = some m)
      (hrest : Renders rest (engine.write (failureText m) w₁) lines w₂) :
      Renders (values :: rest) w lines w₂

/-- One of the renderings raises an error that is not reported, in the world that those before it leave. -/
def Stops (vs : List (List String)) (w : σ) : Prop :=
  ∃ before values after lines w₁ e w₂, vs = before ++ values :: after ∧
    Renders engine n s pipe before w lines w₁ ∧
    engine.render n s (argumentNames values) w₁ = (.error e, w₂) ∧ engine.report? e = none

end Rendering

section Rendering

variable {engine : Engine ε σ} {n : String} {s : Spec} {pipe : String}

/-- What one more row in front does: its rendering stops everything, or the others go on after it. -/
theorem renders_cons_iff {values : List String} {rest : List (List String)} {w w' : σ} {lines : List String} :
    Renders engine n s pipe (values :: rest) w lines w' ↔
      ∃ here w₁ more, (renderLines engine n s values pipe).run w = (.ok here, w₁) ∧
        Renders engine n s pipe rest w₁ more w' ∧ lines = here ++ more := by
  rw [renderLines_run]
  constructor
  · intro h
    cases h with
    | text h hrest =>
      rw [h]
      exact ⟨_, _, _, rfl, hrest, rfl⟩
    | failure h hm hrest =>
      rw [h]
      simp only [hm]
      exact ⟨_, _, _, rfl, hrest, rfl⟩
  · rintro ⟨here, w₁, more, hrun, hrest, rfl⟩
    cases hr : engine.render n s (argumentNames values) w with
    | mk r w₂ =>
      rw [hr] at hrun
      cases r with
      | ok text =>
        cases hrun
        exact .text hr hrest
      | error e =>
        cases hm : engine.report? e with
        | none =>
          simp only [hm] at hrun
          cases hrun
        | some m =>
          simp only [hm] at hrun
          cases hrun
          exact .failure hr hm hrest

theorem renderLines_error_iff {values : List String} {w w₁ : σ} {x : ExpansionError ε} :
    (renderLines engine n s values pipe).run w = (.error x, w₁) ↔
      ∃ e, x = .script e ∧ engine.render n s (argumentNames values) w = (.error e, w₁) ∧
        engine.report? e = none := by
  rw [renderLines_run]
  cases engine.render n s (argumentNames values) w with
  | mk r w₂ =>
    cases r with
    | ok text =>
      constructor
      · intro h
        cases h
      · rintro ⟨e, _, h, _⟩
        cases h
    | error e =>
      cases hm : engine.report? e with
      | none =>
        simp only [hm]
        constructor
        · intro h
          cases h
          exact ⟨e, rfl, rfl, hm⟩
        · rintro ⟨e', rfl, h, _⟩
          cases h
          rfl
      | some m =>
        simp only [hm]
        constructor
        · intro h
          cases h
        · rintro ⟨e', _, h, hnone⟩
          cases h
          rw [hm] at hnone
          cases hnone

/-- What one more row in front does to stopping. -/
theorem stops_cons_iff {values : List String} {rest : List (List String)} {w : σ} :
    Stops engine n s pipe (values :: rest) w ↔
      (∃ x w₁, (renderLines engine n s values pipe).run w = (.error x, w₁)) ∨
      ∃ here w₁, (renderLines engine n s values pipe).run w = (.ok here, w₁) ∧
        Stops engine n s pipe rest w₁ := by
  constructor
  · rintro ⟨before, values', after, lines, w₁, e, w₂, heq, hbefore, hrender, hnone⟩
    cases before with
    | nil =>
      cases hbefore
      cases heq
      exact .inl ⟨_, _, renderLines_error_iff.mpr ⟨e, rfl, hrender, hnone⟩⟩
    | cons v before =>
      cases heq
      obtain ⟨here, w₀, more, hrun, hmore, _⟩ := renders_cons_iff.mp hbefore
      exact .inr ⟨here, w₀, hrun, before, values', after, more, w₁, e, w₂, rfl, hmore, hrender, hnone⟩
  · rintro (⟨x, w₁, hrun⟩ | ⟨here, w₁, hrun, before, values', after, lines, w₂, e, w₃, rfl, hbefore, hrest⟩)
    · obtain ⟨e, _, hrender, hnone⟩ := renderLines_error_iff.mp hrun
      exact ⟨[], values, rest, [], w, e, w₁, rfl, .done w, hrender, hnone⟩
    · exact ⟨values :: before, values', after, here ++ lines, w₂, e, w₃, rfl,
        renders_cons_iff.mpr ⟨here, w₁, lines, hrun, hbefore, rfl⟩, hrest⟩

/-! ## The script of a macro -/

/-- The lines of a script for some rows of values. -/
def renderRows (engine : Engine ε σ) (n : String) (s : Spec) (pipe : String) (vs : List (List String)) :
    Expanding ε σ (List String) := do
  return (← vs.mapM fun values => renderLines engine n s values pipe).flatten

theorem renderRows_cons (values : List String) (rest : List (List String)) (w : σ) :
    (renderRows engine n s pipe (values :: rest)).run w =
      match (renderLines engine n s values pipe).run w with
      | (.ok here, w₁) =>
        match (renderRows engine n s pipe rest).run w₁ with
        | (.ok more, w₂) => (.ok (here ++ more), w₂)
        | (.error x, w₂) => (.error x, w₂)
      | (.error x, w₁) => (.error x, w₁) := by
  simp only [renderRows, List.mapM_cons, run_bind]
  cases (renderLines engine n s values pipe).run w with
  | mk r w₁ =>
    cases r with
    | error x => rfl
    | ok here =>
      simp only
      cases (rest.mapM fun values => renderLines engine n s values pipe).run w₁ with
      | mk r w₂ => cases r <;> rfl

/-- The lines that come out are those of the renderings one after the other. -/
theorem renderRows_ok_iff {vs : List (List String)} {w w' : σ} {lines : List String} :
    (renderRows engine n s pipe vs).run w = (.ok lines, w') ↔ Renders engine n s pipe vs w lines w' := by
  induction vs generalizing w lines with
  | nil =>
    constructor
    · intro h
      cases h
      exact .done _
    · intro h
      cases h
      rfl
  | cons values rest ih =>
    rw [renders_cons_iff, renderRows_cons]
    constructor
    · intro h
      cases hrun : (renderLines engine n s values pipe).run w with
      | mk r w₁ =>
        rw [hrun] at h
        cases r with
        | error x => cases h
        | ok here =>
          cases hrest : (renderRows engine n s pipe rest).run w₁ with
          | mk r w₂ =>
            simp only [hrest] at h
            cases r with
            | error x => cases h
            | ok more =>
              cases h
              exact ⟨here, w₁, more, rfl, ih.mp hrest, rfl⟩
    · rintro ⟨here, w₁, more, hrun, hrest, rfl⟩
      rw [hrun]
      simp only [ih.mpr hrest]

/-- No lines come out exactly when an error stops the renderings. -/
theorem renderRows_error_iff {vs : List (List String)} {w : σ} :
    (∃ x w', (renderRows engine n s pipe vs).run w = (.error x, w')) ↔ Stops engine n s pipe vs w := by
  induction vs generalizing w with
  | nil =>
    constructor
    · rintro ⟨x, w', h⟩
      cases h
    · rintro ⟨before, values, after, _, _, _, _, heq, _⟩
      cases before <;> cases heq
  | cons values rest ih =>
    rw [stops_cons_iff, renderRows_cons]
    cases (renderLines engine n s values pipe).run w with
    | mk r w₁ =>
      cases r with
      | error x => exact ⟨fun _ => .inl ⟨x, w₁, rfl⟩, fun _ => ⟨x, w₁, rfl⟩⟩
      | ok here =>
        constructor
        · rintro ⟨x, w', h⟩
          refine .inr ⟨here, w₁, rfl, ih.mp ?_⟩
          cases hrest : (renderRows engine n s pipe rest).run w₁ with
          | mk r w₂ =>
            simp only [hrest] at h
            cases r with
            | ok more => cases h
            | error x => exact ⟨x, w₂, rfl⟩
        · rintro (⟨x, w₂, h⟩ | ⟨here', w₂, h, hstops⟩)
          · cases h
          · cases h
            obtain ⟨x, w', hrest⟩ := ih.mpr hstops
            exact ⟨x, w', by simp only [hrest]⟩

/-- The body of a macro of a script: its renderings one after the other. -/
theorem resolveBody_script (h : s.commands = []) (arguments : List String) (w : σ) :
    (resolveBody engine n s arguments pipe).run w
      = (renderRows engine n s pipe (rows s arguments)).run w := by
  have hnone : s.commands.isEmpty = true := by simp [h]
  simp only [resolveBody, hnone, if_true, rows, List.isEmpty_iff]
  split_ifs with harguments
  · rw [renderRows_cons]
    cases (renderLines engine n s [] pipe).run w with
    | mk r w₁ =>
      cases r with
      | error x => rfl
      | ok here =>
        show _ = (Except.ok (here ++ []), w₁)
        rw [List.append_nil]
  · simp only [resolveScript, Spec.divide, renderRows, List.mapM_map]
    rfl

end Rendering

/-! ## Scripts on the files -/

theorem mem_undeclared_iff {n : String} {body : List Template.Node} :
    n ∈ Template.undeclared body ↔ n ∈ Template.takenBy {} body := by
  rw [Template.undeclared, List.mem_mergeSort, List.mem_eraseDups]

/-- A script that can be read, with filters and tests that exist and names that every script has, is valid. -/
theorem compile_of_parse {name script : String} {nodes : List Template.Node}
    (hparse : Template.parse script = .ok nodes) (habsent : Template.absentIn? vocabulary false nodes = none)
    (hnames : ∀ n ∈ Template.takenBy {} nodes, grammar.knows n) : grammar.compile name script = .ok () := by
  have htaken : grammar.taken script = .ok (Template.undeclared nodes) := by
    simp only [grammar, takenNames, hparse, habsent]
  have hflaw : grammar.flaw? script = none := by simp only [grammar, hparse]
  have hunknown : (Template.undeclared nodes).filter (!grammar.knows ·) = [] := by
    rw [List.filter_eq_nil_iff]
    intro n hn
    rw [hnames n (mem_undeclared_iff.mp hn)]
    exact Bool.false_ne_true
  simp only [Grammar.compile, hflaw, htaken, hunknown, List.mergeSort_nil, List.isEmpty_nil, Bool.not_true,
    Bool.false_eq_true, if_false]
  rfl

/-- A valid script is rendered as the template that it is read as. -/
theorem renderScript_of_parse {name : String} {s : Spec} {nodes : List Template.Node}
    (hparse : Template.parse s.script = .ok nodes) (hcompile : grammar.compile name s.script = .ok ())
    (names : List (String × String)) (w : Surroundings) :
    scripts.render name s names w =
      let (r, w') := Template.render host (depthOf s.script) nodes (names.map fun n => (n.1, .text n.2)) w
      (r.mapError .ofRender, w') := by
  show renderScript name s names w = _
  simp only [renderScript, hcompile, hparse]
  rfl

/-- A script that prints the value of an expression. -/
def printing (expression : String) : String :=
  "\x7b\x7b " ++ expression ++ " \x7d\x7d"

/-- A script that fails for every value without a conversion. -/
def form : Spec :=
  { arguments := ["format"], varargs := true, script := printing "Arg1 % 1" }

def formNodes : List Template.Node :=
  [.print (.binary .rem (.name "Arg1") (.literal (.int 1)))]

theorem parse_form : Template.parse form.script = .ok formNodes := by rfl

theorem compile_form : grammar.compile "form" form.script = .ok () := by
  refine compile_of_parse parse_form (by rfl) ?_
  have htaken : Template.takenBy {} formNodes = ["Arg1"] := by
    simp only [formNodes, Template.takenBy, Template.takenInside, Template.takenInsideNode]
    rfl
  rw [htaken]
  decide

/-- A script that divides by zero. -/
def quotient : Spec :=
  { arguments := ["dividend"], varargs := true, script := printing "1 / 0" }

def quotientNodes : List Template.Node :=
  [.print (.binary .div (.literal (.int 1)) (.literal (.int 0)))]

theorem parse_quotient : Template.parse quotient.script = .ok quotientNodes := by rfl

theorem compile_quotient : grammar.compile "quotient" quotient.script = .ok () := by
  refine compile_of_parse parse_quotient (by rfl) ?_
  have htaken : Template.takenBy {} quotientNodes = [] := by
    simp only [quotientNodes, Template.takenBy, Template.takenInside, Template.takenInsideNode]
    rfl
  rw [htaken]
  decide

/-- **When a macro of a script yields lines.**  An invocation whose arguments fit yields lines exactly when no
rendering raises an error that is not reported.  They are the lines of the renderings for all values of the last
argument in order; a rendering with an error that is reported has no lines, and one message is written about
it.  With another number of arguments the usage is written, and no line comes out. -/
theorem script_yields_lines_iff {specs : List (String × Spec)} {line n : String} {c : Chain} {s : Spec}
    {arguments : List String} (h : Invokes specs line c n s arguments) (hscript : s.commands = [])
    (engine : Engine ε σ) (w : σ) :
    if s.fits arguments.length then
      ((∃ lines w', (resolve engine specs line).run w = (.ok lines, w')) ↔
        ¬ Stops engine n s (pipeOf line) (rows s arguments) w) ∧
      ∀ lines w', (resolve engine specs line).run w = (.ok lines, w') ↔
        Renders engine n s (pipeOf line) (rows s arguments) w lines w'
    else (resolve engine specs line).run w
      = (.ok [], engine.write (usage n s) (engine.write "invalid macro arguments\n" w)) := by
  rw [h.resolve]
  split_ifs with hfits
  · rw [resolveBody_script hscript]
    refine ⟨?_, fun lines w' => renderRows_ok_iff⟩
    rw [← renderRows_error_iff]
    cases (renderRows engine n s (pipeOf line) (rows s arguments)).run w with
    | mk r w' =>
      cases r with
      | ok lines =>
        refine ⟨?_, fun _ => ⟨lines, w', rfl⟩⟩
        rintro _ ⟨x, w₂, h⟩
        cases h
      | error x =>
        constructor
        · rintro ⟨lines, w₂, h⟩
          cases h
        · intro hnot
          exact absurd ⟨x, w', rfl⟩ hnot
  · rfl

/-- The second value has no conversion: its rendering is reported, and the line of the first one stays. -/
theorem form_yields_lines :
    Invokes [("form", form)] "form %d b" ⟨[⟨"form", ["%d", "b"]⟩], [], ["form", "%d", "b"], false⟩ "form" form
      ["%d", "b"] ∧
    (resolve scripts [("form", form)] "form %d b").run {}
      = (.ok ["1"], { written := [failureText "not all arguments converted during string formatting"] }) := by
  have h : Invokes [("form", form)] "form %d b" ⟨[⟨"form", ["%d", "b"]⟩], [], ["form", "%d", "b"], false⟩ "form"
      form ["%d", "b"] := ⟨by decide +kernel, rfl, rfl⟩
  have hyields := script_yields_lines_iff h rfl scripts {}
  rw [if_pos (by decide)] at hyields
  have hfirst : scripts.render "form" form (argumentNames ["%d"]) {} = (.ok "1", {}) := by
    rw [renderScript_of_parse parse_form compile_form]
    rfl
  have hsecond : scripts.render "form" form (argumentNames ["b"]) {}
      = (.error (.fault (.mistyped .tooManyFormatted)), {}) := by
    rw [renderScript_of_parse parse_form compile_form]
    rfl
  have hreport : scripts.report? (.fault (.mistyped .tooManyFormatted))
      = some "not all arguments converted during string formatting" := by decide +kernel
  have hlines : (linesOf "1").map (attachPipe (pipeOf "form %d b")) = ["1"] := by decide +kernel
  have hrows : rows form ["%d", "b"] = [["%d"], ["b"]] := by decide
  have hrenders : Renders scripts "form" form (pipeOf "form %d b") [["%d"], ["b"]] {}
      ((linesOf "1").map (attachPipe (pipeOf "form %d b")) ++ []) (scripts.write (failureText _) {}) :=
    .text hfirst (.failure hsecond hreport (.done _))
  rw [hlines] at hrenders
  rw [hrows] at hyields
  exact ⟨h, (hyields.2 _ _).mpr hrenders⟩

/-- A division by zero is not reported: the macro is valid, and yet its invocation yields no lines, but ends
with the error. -/
theorem quotient_yields_no_lines :
    validate [("quotient", quotient)] = .ok () ∧
    ∀ lines w', (resolve scripts [("quotient", quotient)] "quotient a b").run {} ≠ (.ok lines, w') := by
  constructor
  · have hvalid : grammar.check "quotient" quotient = .ok () := by
      have hname : isReserved "quotient" = false := by decide +kernel
      have hbody : quotient.commands.isEmpty = true ∧ quotient.script.isEmpty = false := by decide
      simp only [Grammar.check, hname, hbody.1, hbody.2, compile_quotient]
      rfl
    show (grammar.check "quotient" quotient >>= fun _ => .ok ()) = _
    rw [hvalid]
    rfl
  · have h : Invokes [("quotient", quotient)] "quotient a b"
        ⟨[⟨"quotient", ["a", "b"]⟩], [], ["quotient", "a", "b"], false⟩ "quotient" quotient ["a", "b"] :=
      ⟨by decide +kernel, rfl, rfl⟩
    have hrender : scripts.render "quotient" quotient (argumentNames ["a"]) {}
        = (.error (.fault (.zeroDivision .whole)), {}) := by
      rw [renderScript_of_parse parse_quotient compile_quotient]
      rfl
    have hrows : rows quotient ["a", "b"] = [["a"], ["b"]] := by decide
    have hstops : Stops scripts "quotient" quotient (pipeOf "quotient a b") [["a"], ["b"]] {} :=
      ⟨[], ["a"], [["b"]], [], {}, _, {}, rfl, .done _, hrender, rfl⟩
    intro lines w' hrun
    rw [h.resolve, if_pos (by decide), resolveBody_script rfl, hrows] at hrun
    obtain ⟨x, w₂, herror⟩ := renderRows_error_iff.mpr hstops
    rw [herror] at hrun
    cases hrun

end TopicShell.Macro
