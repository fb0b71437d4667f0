import CommandShell.Proofs.Session.Strokes

/-!
# What is disabled upon confirmation only

Some services are guarded: the shell cannot go on without them. In a session with the
built-in commands nothing disables one of them but the execution of a fragment that asks
for it by name and confirms it (`confirmed_of_disabled`), however it is written and
wherever in a chain it stands. Of the built-in commands only one disables services at
all (`definitions_cases`), and the flag that its handler looks at is the one that was
given, since it is verified to be a truth value (`confirm_of_admits`).
-/

namespace CommandShell

/-! ## What handlers disable -/

/-- Whatever the replies are, the handler disables only services that `P` tells of. -/
def Handler.DisablesOnly (P : String → Prop) : Handler → Prop
  | .done _ | .fail _ => True
  | .pause _ rest => rest.DisablesOnly P
  | .ask r rest =>
    (∀ name, r = .disable name → P name) ∧ ∀ answer, (rest answer).DisablesOnly P

/-- What an invocation of the command for services asks for when it disables one, so
that a guarded one has been confirmed. -/
structure Invocation.Disables (v : Invocation) (key : String) : Prop where
  action : v.arg? 0 ≠ some "logs" ∧ v.arg? 0 ≠ some "list" ∧ v.arg? 0 ≠ some "enable"
  requested : ∃ requested, v.arg? 1 = some requested ∧ Text.lower requested = key
  confirmed : (∃ w ∈ Builtin.guarded, w.name = key) → v.isSet "confirm" = true

namespace Builtin

variable {P : String → Prop}

theorem disablesOnly_unlessFault {reply : Except Fault Unit} {rest : Handler}
    (h : rest.DisablesOnly P) : (Handler.unlessFault reply rest).DisablesOnly P := by
  unfold Handler.unlessFault
  split
  · exact h
  · trivial

theorem disablesOnly_logs (v : Invocation) : (logs v).DisablesOnly P := by
  have hdump (answer : Except Fault (List String)) :
      (match answer with
        | .ok lines => Handler.done (.lines (lines.map fun l => .plain l))
        | .error f => .fail (.fault f)).DisablesOnly P := by
    cases answer <;> trivial
  unfold logs
  dsimp only
  split
  · exact ⟨by rintro _ ⟨⟩, fun _ => ⟨by rintro _ ⟨⟩, hdump⟩⟩
  · exact ⟨by rintro _ ⟨⟩, hdump⟩

/-- The command for services disables what it is asked to, and guarded services upon
confirmation. -/
theorem disablesOnly_serviceHandler (v : Invocation) :
    (serviceHandler v).DisablesOnly v.Disables := by
  unfold serviceHandler
  split
  · exact disablesOnly_logs v
  · exact ⟨by rintro _ ⟨⟩, fun _ => trivial⟩
  · rename_i hlogs hlist
    unfold toggle
    split
    · trivial
    · rename_i requested hrequested
      have harg : v.arg? 1 = some requested := (Option.filter_eq_some_iff.mp hrequested).1
      refine ⟨by rintro _ ⟨⟩, fun states => ?_⟩
      dsimp only
      split
      · trivial
      · split
        · exact ⟨by rintro _ ⟨⟩, fun _ => disablesOnly_unlessFault trivial⟩
        · rename_i henable
          unfold disable
          split
          · trivial
          · rename_i hguard
            refine ⟨?_, fun _ => disablesOnly_unlessFault trivial⟩
            rintro key ⟨⟩
            refine ⟨⟨hlogs, hlist, by simpa using henable⟩, ⟨requested, harg, rfl⟩, ?_⟩
            rintro ⟨w, hw, hname⟩
            by_contra hset
            have hmissing : guarded.any (·.name == Text.lower requested) = true :=
              List.any_eq_true.mpr ⟨w, hw, beq_iff_eq.mpr hname⟩
            exact hguard (by simp [hmissing, Bool.eq_false_iff.mpr hset])

/-- All other built-in commands leave the services alone. -/
theorem definitions_cases {name : String} {d : Definition Program}
    (h : definitions.get? name = some d) :
    (∀ v, (d.handler v).DisablesOnly fun _ => False) ∨ name = "service" ∧ d = service := by
  have hcount (v : Invocation) : (countLines v).DisablesOnly fun _ => False := by
    unfold countLines
    split
    · trivial
    · exact ⟨by rintro _ ⟨⟩, fun _ => trivial⟩
  have hhelp (v : Invocation) : (helpHandler v).DisablesOnly fun _ => False := by
    unfold helpHandler
    split <;> exact ⟨by rintro _ ⟨⟩, fun _ => trivial⟩
  have hclear (v : Invocation) : (clear.handler v).DisablesOnly fun _ => False :=
    ⟨by rintro _ ⟨⟩, fun _ => ⟨by rintro _ ⟨⟩, fun _ => trivial⟩⟩
  have hfindIn (pattern : Pattern.Tree) (lines : List Line) :
      (findIn pattern lines).DisablesOnly fun _ => False := by
    unfold findIn
    split <;> trivial
  have hfind (v : Invocation) : (findHandler v).DisablesOnly fun _ => False := by
    unfold findHandler
    split
    · unfold patternFailure
      split <;> trivial
    · split
      · exact hfindIn _ _
      · exact ⟨by rintro _ ⟨⟩, hfindIn _⟩
  have hmem := Table.mem_of_get? h
  simp only [definitions, List.mem_cons, List.not_mem_nil, or_false, Prod.mk.injEq] at hmem
  rcases hmem with h | h | h | h | h | h | h | h | h | h | h <;> obtain ⟨rfl, rfl⟩ := h
  · exact Or.inl fun _ => trivial
  · exact Or.inl fun _ => ⟨by rintro _ ⟨⟩, fun _ => trivial⟩
  · exact Or.inl fun _ => ⟨by rintro _ ⟨⟩, fun _ => trivial⟩
  · exact Or.inl hcount
  · exact Or.inl hcount
  · exact Or.inl hhelp
  · exact Or.inl hclear
  · exact Or.inl hclear
  · exact Or.inr ⟨rfl, rfl⟩
  · exact Or.inl hfind
  · exact Or.inl hfind

end Builtin

/-! ## What is admitted -/

/-- The fragment asks to disable the service by its name, in any letter case, and
confirms it. -/
structure Fragment.ConfirmsDisabling (f : Fragment) (v : Service) : Prop where
  name : f.name = "service"
  action : f.args[0]? = some "disable"
  service : ∃ requested, f.args[1]? = some requested ∧ Text.lower requested = v.name
  confirm : ("confirm", .bool true) ∈ f.flags

section Admitted

variable {r : Registry Program} {f : Fragment} {v : Invocation}

/-- An action of the command for services is one of four. -/
theorem action_of_admits (h : r.Admits f Builtin.service v.flags) :
    ∃ action ∈ ["list", "enable", "disable", "logs"], f.args[0]? = some action := by
  have hrequired := h.required 0 _ rfl rfl
  have hget := List.getElem?_eq_getElem hrequired
  exact ⟨f.args[0], h.allowed 0 _ _ _ rfl hget rfl, hget⟩

theorem eq_bool_of_runtimeType {value : Value} (h : runtimeType value = Datatype.boolean.name) :
    ∃ b, value = .bool b := by
  cases value with
  | list items => simp [runtimeType, Value.typeName, Datatype.name] at h
  | map entries => simp [runtimeType, Value.typeName, Datatype.name] at h
  | scalar x =>
      cases x with
      | bool b => exact ⟨b, rfl⟩
      | _ => simp [runtimeType, Value.typeName, Scalar.typeName, Datatype.name] at h

/-- No text becomes a truth value. -/
theorem eq_bool_of_coerce {given : Value} {b : Bool} (h : coerce given = .ok (.bool b)) :
    given = .bool b := by
  unfold coerce at h
  split at h
  · rename_i text
    split at h
    · cases hread : Numeral.read text <;> simp [hread, Except.map] at h
    · exact Except.ok.inj h
  · exact Except.ok.inj h

/-- A confirmation that the handler finds has been given as such. -/
theorem confirm_of_admits (h : r.Admits f Builtin.service v.flags)
    (hset : v.isSet "confirm" = true) : ("confirm", .bool true) ∈ f.flags := by
  obtain ⟨value, hvalue, htrue⟩ := (Option.any_eq_true _ _).mp hset
  rcases h.flags "confirm" value (Table.mem_of_get? hvalue) with
    ⟨hunknown, -⟩ | ⟨p, hp, hname, ⟨t, ht, htype⟩, k, given, hgiven, hnamed, hcoerce⟩
  · -- the command knows the flag
    have hknown := hunknown (Builtin.service.flags[0]) (List.getElem_mem _)
    exact absurd hknown (by decide)
  · simp [Definition.flags, Builtin.service, Parameter.isFlag] at hp
    rcases hp with rfl | rfl
    · obtain rfl := Option.some.inj ht
      obtain ⟨b, rfl⟩ := eq_bool_of_runtimeType htype
      obtain rfl : b = true := htrue
      have hkey : k = "confirm" := by simpa [Parameter.isNamed] using hnamed
      rwa [← hkey, ← eq_bool_of_coerce hcoerce]
    · exact absurd hname (by decide)

end Admitted

namespace Session

variable {s s₀ t u : Session}

/-! ## Executions -/

/-- The only request that disables a service is the one for it. -/
theorem eq_disable_of_reply {r : Request} (hr : r.IsTame) {v : Service}
    (hon : s.isEnabled v = true) (hoff : (s.reply r).1.isEnabled v = false) :
    r = .disable v.name := by
  by_cases hdisable : ∃ name, r = .disable name
  · obtain ⟨name, rfl⟩ := hdisable
    have hoff' : (s.disableNamed name).1.isEnabled v = false := hoff
    unfold disableNamed at hoff'
    split at hoff'
    · rename_i w hw
      have hname : w.name = name := by
        simpa using List.find?_some (show Service.all.find? _ = some w from hw)
      by_cases heq : v = w
      · rw [heq, hname]
      · unfold isEnabled at hon hoff'
        rw [lifeOf_disable, if_neg heq, hon] at hoff'
        cases hoff'
    · rw [hon] at hoff'
      cases hoff'
  · have hkept := upholds_reply (s := s) hr fun name hname => hdisable ⟨name, hname⟩
    rw [hkept.enabled v hon] at hoff
    cases hoff

/-- A handler disables what it asks to disable. -/
theorem disables_of_runHandler {P : String → Prop} {handler : Handler} (hh : handler.IsTame)
    (hP : handler.DisablesOnly P) {v : Service} (hon : s.isEnabled v = true)
    (hoff : (runHandler handler s).1.isEnabled v = false) : P v.name := by
  induction handler generalizing s with
  | done outcome =>
      rw [runHandler, hon] at hoff
      cases hoff
  | fail failure =>
      rw [runHandler, hon] at hoff
      cases hoff
  | pause p rest ih => exact hh.elim
  | ask r rest ih =>
      cases hreply : (s.reply r).1.isEnabled v with
      | false => exact hP.1 v.name (eq_disable_of_reply hh.1 hon hreply)
      | true => exact ih _ (hh.2 _) (hP.2 _) hreply hoff

/-- **An execution that disables a guarded service has been confirmed.** -/
theorem confirms_of_executes (h : s.IsPlain) {f : Fragment} (he : Executes s f t) {v : Service}
    (hv : v ∈ Builtin.guarded) (hon : s.isEnabled v = true) (hoff : t.isEnabled v = false) :
    f.ConfirmsDisabling v := by
  obtain ⟨hbegins⟩ := he
  have hbegun := upholds_of_beginStage hbegins
  obtain ⟨d, w, rfl, -, hargs, -, -, hadmits⟩ := admits_of_beginStage hbegins
  have hdefined : Builtin.definitions.get? f.name = some d := by
    rw [← (hbegun.plain h).definitions]
    exact hadmits.defined
  have htame := (isTame_of_isPlain (hbegun.plain h) f.name d hadmits.defined).handler w
  rcases Builtin.definitions_cases hdefined with hspares | ⟨hname, rfl⟩
  · exact (disables_of_runHandler htame (hspares w) (hbegun.enabled v hon) hoff).elim
  · obtain ⟨⟨hlogs, hlist, henable⟩, hrequested, hconfirmed⟩ :=
      disables_of_runHandler htame (Builtin.disablesOnly_serviceHandler w)
        (hbegun.enabled v hon) hoff
    unfold Invocation.arg? at hlogs hlist henable hrequested
    rw [hargs] at hlogs hlist henable hrequested
    obtain ⟨action, hmem, haction⟩ := action_of_admits hadmits
    refine ⟨hname, ?_, hrequested, confirm_of_admits hadmits (hconfirmed ⟨v, hv, rfl⟩)⟩
    simp only [List.mem_cons, List.not_mem_nil, or_false] at hmem
    rcases hmem with rfl | rfl | rfl | rfl
    · exact absurd haction hlist
    · exact absurd haction henable
    · exact haction
    · exact absurd haction hlogs

/-! ## Runs -/

/-- **Guarded services are disabled upon confirmation only.** A session has been built,
and from then on anything may happen to it. Each thing that happens is made of strokes, one after
the other, and a stroke that disables a guarded service is the execution of a fragment that
asks for it by name and confirms it. -/
theorem confirmed_of_disabled {settings : Settings} {name : String} {clock : Clock}
    {reports canClear : Bool} (hbuild : build settings name clock reports canClear = .ok s₀) :
    (∀ s, Relation.ReflTransGen Occurs s₀ s →
      Strokes s₀ s ∧ ∀ t, Occurs s t → Strokes s t) ∧
    ∀ t u, Strokes s₀ t → Stroke t u → ∀ v ∈ Builtin.guarded,
      t.isEnabled v = true → u.isEnabled v = false →
        (∃ f, Executes t f u) ∧ ∀ f, Executes t f u → f.ConfirmsDisabling v := by
  have hplain := isPlain_build hbuild
  refine ⟨fun s hrun => ?_, fun t u hrun hstroke v hv hon hoff => ?_⟩
  · have hstrokes : Strokes s₀ s := strokes_of_run hplain hrun
    exact ⟨hstrokes, fun t hoccurs =>
      strokes_of_occurs (isPlain_of_strokes hplain hstrokes) hoccurs⟩
  have ht := isPlain_of_strokes hplain hrun
  refine ⟨?_, fun f he => confirms_of_executes ht he hv hon hoff⟩
  rcases upholds_of_stroke ht hstroke with hupholds | hexecutes
  · rw [hupholds.enabled v hon] at hoff
    cases hoff
  · exact hexecutes

/-! ## A service that is asked for in capitals -/

namespace Confirmed

/-- The fragment of the line. -/
def off : Fragment :=
  { name := "service", args := ["disable", "CommandExec"], flags := [("confirm", .bool true)] }

def asked : Session := Lost.built.submit "service disable CommandExec --confirm"

def taken : Session := { asked with ready := asked.ready.erase .chain }

/-- The chain of the line has begun. -/
def begun : Session :=
  (taken.setPhase .active).report .engine .info "chain started" [("chain", .str taken.label)]

/-- Its only fragment has been executed. -/
def executed : Session :=
  match begun.beginStage off none with
  | (t, .ok handler) => (runHandler handler t).1
  | (t, .error _) => t

theorem executes : Executes begun off executed := by
  have hok : (begun.beginStage off none).2.isOk = true := by decide +kernel
  unfold executed
  generalize hbegins : begun.beginStage off none = there at hok
  obtain ⟨t, result⟩ := there
  cases result with
  | error failure => cases hok
  | ok handler => exact .of hbegins

theorem strokes_begun (h : Strokes Lost.built asked) : Strokes Lost.built begun := by
  have htaken : Stroke asked taken := .take (.ready (by decide +kernel))
  have hsome : taken.engine.run.isSome = true := by decide +kernel
  obtain ⟨r, hr⟩ := Option.isSome_iff_exists.mp hsome
  have hlabel : taken.label = r.entry.label := by
    unfold label
    rw [hr]
    rfl
  have hbegun : Stroke taken begun := by
    unfold begun
    rw [hlabel]
    exact .begin hr
  exact (h.tail htaken).tail hbegun

end Confirmed

/-- The engine goes down where the line is executed, whose flags confirm it. -/
theorem confirmed_executed : Confirmed.begun.isEnabled .engine = true ∧
    Confirmed.executed.isEnabled .engine = false ∧
    Confirmed.off.ConfirmsDisabling .engine := by
  obtain ⟨hruns, hstrokes⟩ := confirmed_of_disabled Lost.build_eq
  obtain ⟨-, hnext⟩ := hruns Lost.built .refl
  have hasked : Strokes Lost.built Confirmed.asked := hnext _ (.happens (.line .submit))
  have hon : Confirmed.begun.isEnabled .engine = true := by decide +kernel
  have hoff : Confirmed.executed.isEnabled .engine = false := by decide +kernel
  obtain ⟨-, hconfirms⟩ := hstrokes _ _ (Confirmed.strokes_begun hasked)
    (.execute Confirmed.executes) .engine (by decide) hon hoff
  exact ⟨hon, hoff, hconfirms _ Confirmed.executes⟩

end Session

end CommandShell
