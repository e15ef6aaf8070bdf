import DocScribe.Log.Sink
import DocScribe.Proofs.Log.Line
import DocScribe.Proofs.Text.Lines

/-!
# What is bound in a tee

A handler is derived from another by bindings: attributes are bound, or a group is opened. An
attribute is told under the groups that are open when it comes, in the record or bound before, so
everything that bindings do to a line is to put attributes in front of the record's own and the
names of groups in front of keys (`gathered`). One binding of a line scope is `bind_of_groups`, any
number of them `bindAll_of_groups`. A tee binds in each sink by itself, so each writes the lines
that it would write alone for the attributes gathered (**`write_bindAll_tee`**).
-/

namespace DocScribe.Log

/-- A step that derives a handler from another. -/
inductive Binding where
  | attrs (attrs : List Attr)
  | group (name : Text)

/-! What bindings amount to. -/

/-- The attributes that a step binds. -/
def Binding.bound : Binding → List Attr
  | .attrs new => new
  | .group _ => []

/-- The group that a step opens. One without a name is not opened. -/
def Binding.opened : Binding → List Text
  | .attrs _ => []
  | .group name => if name.isEmpty then [] else [name]

/-- The names of the groups that are open after some steps, outermost first. -/
def openGroups (steps : List Binding) : List Text :=
  steps.flatMap Binding.opened

/-- The attribute with the names of groups before its key, a dot after each. -/
def Attr.under (groups : List Text) (attr : Attr) : Attr :=
  (Text.terminate [0x2e] groups ++ attr.1, attr.2)

/-- The attributes that steps bind after others were taken, oldest first, each under the groups that
are open when it is bound. -/
def boundAfter (before : List Binding) : List Binding → List Attr
  | [] => []
  | step :: steps =>
    step.bound.map (Attr.under (openGroups before)) ++ boundAfter (before ++ [step]) steps

/-- The attributes that are told of a record after some steps: those bound, then its own under all
the groups that are open. -/
def gathered (steps : List Binding) (attrs : List Attr) : List Attr :=
  boundAfter [] steps ++ attrs.map (Attr.under (openGroups steps))

theorem openGroups_concat (steps : List Binding) (step : Binding) :
    openGroups (steps ++ [step]) = openGroups steps ++ step.opened := by
  rw [openGroups, List.flatMap_append, List.flatMap_singleton, openGroups]

/-! Lines. -/

namespace LineScope

/-- The scope after a step. -/
def bind (scope : LineScope) : Binding → LineScope
  | .attrs attrs => scope.withAttrs attrs
  | .group name => scope.withGroup name

/-- The scope after some steps. -/
def bindAll (scope : LineScope) (steps : List Binding) : LineScope :=
  steps.foldl bind scope

theorem resolve_eq_under (scope : LineScope) : scope.resolve = Attr.under scope.groups := by
  funext attr
  obtain ⟨key, value⟩ := attr
  rw [resolve]
  by_cases hgroups : scope.groups = []
  · rw [hgroups]
    rfl
  · rw [if_neg (by simpa using hgroups), Attr.under,
      Text.terminate_eq_join_append _ hgroups, List.append_assoc]
    rfl

/-- A step binds its attributes under the open groups, and opens its group. -/
theorem bind_of_groups {scope : LineScope} {before : List Binding}
    (groups : scope.groups = openGroups before) (step : Binding) :
    scope.bind step =
      { attrs := scope.attrs ++ step.bound.map (Attr.under (openGroups before))
        groups := openGroups (before ++ [step]) } := by
  rw [openGroups_concat, ← groups]
  cases step with
  | attrs attrs =>
    rw [bind, withAttrs, resolve_eq_under, Binding.opened, Binding.bound, List.append_nil]
  | group name =>
    rw [bind, withGroup, Binding.opened, Binding.bound, List.map_nil, List.append_nil]
    split
    · rw [List.append_nil]
    · rfl

theorem bindAll_of_groups {scope : LineScope} {before : List Binding}
    (groups : scope.groups = openGroups before) (steps : List Binding) :
    scope.bindAll steps =
      { attrs := scope.attrs ++ boundAfter before steps
        groups := openGroups (before ++ steps) } := by
  induction steps generalizing scope before with
  | nil => rw [bindAll, List.foldl_nil, boundAfter, List.append_nil, List.append_nil, ← groups]
  | cons step steps ih =>
    have hstep := bind_of_groups groups step
    have hrest := @ih (scope.bind step) (before ++ [step]) (by rw [hstep])
    rw [bindAll, List.foldl_cons, ← bindAll, hrest, hstep, boundAfter]
    simp only [List.append_assoc, List.singleton_append]

/-- After some steps a record is written as it would be with the attributes gathered, had nothing
been bound. -/
theorem write_bindAll (steps : List Binding) (record : Record) :
    (bindAll {} steps).write record =
      write {} { record with attrs := gathered steps record.attrs } := by
  have hscope := @bindAll_of_groups {} [] rfl steps
  rw [write_unscoped, write, hscope, resolve_eq_under]
  rfl

end LineScope

/-! Sinks. -/

namespace Sink

/-- The sink after a step. -/
def bind (sink : Sink) : Binding → Sink
  | .attrs attrs => sink.withAttrs attrs
  | .group name => sink.withGroup name

theorem bind_line (level : Level) (scope : LineScope) (step : Binding) :
    bind ⟨level, .line scope⟩ step = ⟨level, .line (scope.bind step)⟩ := by
  cases step <;> rfl

theorem foldl_bind_line (level : Level) (scope : LineScope) (steps : List Binding) :
    steps.foldl bind ⟨level, .line scope⟩ = ⟨level, .line (scope.bindAll steps)⟩ := by
  induction steps generalizing scope with
  | nil => rfl
  | cons step steps ih => rw [List.foldl_cons, bind_line, ih, LineScope.bindAll, LineScope.bindAll,
      List.foldl_cons]

end Sink

/-! Tees. -/

namespace Tee

/-- The tee after a step. -/
def bind (tee : Tee) : Binding → Tee
  | .attrs attrs => tee.withAttrs attrs
  | .group name => tee.withGroup name

/-- The tee after some steps. -/
def bindAll (tee : Tee) (steps : List Binding) : Tee :=
  steps.foldl bind tee

theorem bind_eq_map (tee : Tee) (step : Binding) : tee.bind step = tee.map (·.bind step) := by
  cases step <;> rfl

/-- What is bound in a tee is bound in each sink by itself. -/
theorem bindAll_eq_map (tee : Tee) (steps : List Binding) :
    tee.bindAll steps = tee.map fun sink => steps.foldl Sink.bind sink := by
  induction steps generalizing tee with
  | nil => rw [bindAll, List.foldl_nil]; exact (List.map_id tee).symm
  | cons step steps ih =>
    rw [bindAll, List.foldl_cons, ← bindAll, ih, bind_eq_map, List.map_map]
    rfl

end Tee

/-- A handler that writes lines: its level, and what was bound in it by itself. -/
structure LineHandler where
  level : Level
  steps : List Binding := []

/-- The handler as a sink. -/
def LineHandler.sink (handler : LineHandler) : Sink :=
  ⟨handler.level, .line (.bindAll {} handler.steps)⟩

/-- Whatever is bound in a tee over handlers that write lines, each of them writes a line for a
record iff the record has its level or a higher one, and that is the line of a handler without
bindings for the same record with these attributes: those bound so far, in their order and each
under the groups that were open when it was bound, and then the record's own under all the groups
that are open. -/
theorem write_bindAll_tee (handlers : List LineHandler) (steps : List Binding) (record : Record) :
    (Tee.bindAll (handlers.map LineHandler.sink) steps).write record =
      handlers.map fun handler =>
        if handler.level ≤ record.level then
          some (LineScope.write {}
            { record with attrs := gathered (handler.steps ++ steps) record.attrs })
        else none := by
  rw [Tee.bindAll_eq_map, Tee.write, List.map_map, List.map_map]
  refine List.map_congr_left fun handler _ => ?_
  have hsteps : (LineScope.bindAll {} handler.steps).bindAll steps =
      LineScope.bindAll {} (handler.steps ++ steps) :=
    (List.foldl_append ..).symm
  have hsink : steps.foldl Sink.bind handler.sink =
      ⟨handler.level, .line (.bindAll {} (handler.steps ++ steps))⟩ := by
    rw [LineHandler.sink, Sink.foldl_bind_line, hsteps]
  rw [Function.comp_apply, Function.comp_apply, hsink, Sink.writeEnabled?, Sink.enabled, Sink.write]
  dsimp only
  rw [LineScope.write_bindAll]
  simp only [decide_eq_true_eq]

/-- Only the first handler writes: the number was bound in the group of the request, and the name
comes in that of the user inside it. -/
example :
    (Tee.bindAll [⟨Level.debug, .line {}⟩, ⟨Level.error, .line {}⟩]
      [.group "request", .attrs [("id", .int 7)], .group [], .group "user"]).write
        { level := Level.warn, message := "late", attrs := [("name", .string "ann")], time := 0 } =
      [some ("1970-01-01T00:00:00Z [warn] late | request.id=7 request.user.name=ann\n" : Text),
        none] := by
  decide +kernel

end DocScribe.Log
