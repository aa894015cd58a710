import GotoDefinition.Proofs.Beginning
import GotoDefinition.Proofs.Composition

/-!
# GotoDefinition.Proofs.Relevance

What of its surroundings a node depends on.

Names of classes, functions and constants mean what the namespace, the imports and the surrounding
class make of them. A chain of members and calls begins with one node, and when this is a variable
it is looked up. No other variable is: those that compute a name are mentioned by the node but never
read. Contexts that agree so far (`AgreeOn`) are the same to the node, failures included.

* `start?_mem_mentions` — a variable that is read is mentioned.
* `beginsAlike_of_start` — chains begin alike in contexts that agree.
* `Scope.find?_eq_of_sameUnder` — entries are found by name, wherever they stand.
* `only_what_is_mentioned_matters` — whatever else is in the context changes no answer.
-/

namespace GotoDefinition

/-! ## Variables of a node -/

mutual

/-- The names of the variables that a node mentions anywhere, as they are written. -/
def Node.mentions : Node → List String
  | .mk shape _ => shape.mentions

def Shape.mentions : Shape → List String
  | .classRef _ => []
  | .property _ receiver name => receiver.mentions ++ name.mentions
  | .methodCall _ receiver name => receiver.mentions ++ name.mentions
  | .call callee => callee.mentions
  | .classConstant receiver name => receiver.mentions ++ name.mentions
  | .constantRef _ => []
  | .variable name => name.literal?.toList ++ name.mentions
  | .other => []

/-- A name that is written out mentions nothing; one that is computed, what its node mentions. -/
def NameSlot.mentions : NameSlot → List String
  | .literal _ => []
  | .computed node => node.mentions

end

/-- The variable that a chain of members and calls begins with. -/
def Node.start? : Node → Option String
  | .mk (.property _ receiver _) _ => receiver.start?
  | .mk (.methodCall _ receiver _) _ => receiver.start?
  | .mk (.call callee) _ => callee.start?
  | .mk (.classConstant receiver _) _ => receiver.start?
  | .mk (.variable name) _ => name.literal?
  | .mk (.classRef _) _ => none
  | .mk (.constantRef _) _ => none
  | .mk .other _ => none

theorem Node.start?_inner {m n : Node} (h : n.inner? = some m) : n.start? = m.start? := by
  obtain ⟨shape, range⟩ := n
  cases shape <;> cases h <;> rfl

theorem Node.mentions_inner {m n : Node} (h : n.inner? = some m) : m.mentions ⊆ n.mentions := by
  obtain ⟨shape, range⟩ := n
  cases shape <;> cases h <;> simp [Node.mentions, Shape.mentions]

theorem Node.start?_of_first {n : Node} {name : String}
    (h : n.first.shape = .variable (.literal name)) : n.start? = some name := by
  induction n using Node.induction with
  | step n ih =>
    cases hinner : n.inner? with
    | some m =>
      rw [Node.start?_inner hinner]
      rw [Node.first_inner hinner] at h
      exact ih m hinner h
    | none =>
      rw [Node.first_of_inner_none hinner] at h
      obtain ⟨shape, range⟩ := n
      cases h
      rfl

theorem Node.start?_mem_mentions (n : Node) : ∀ name ∈ n.start?, name ∈ n.mentions := by
  induction n using Node.induction with
  | step n ih =>
    intro name hname
    cases hinner : n.inner? with
    | some m =>
      rw [Node.start?_inner hinner] at hname
      exact Node.mentions_inner hinner (ih m hinner name hname)
    | none =>
      obtain ⟨shape, range⟩ := n
      cases shape with
      | «variable» slot => exact List.mem_append_left _ (Option.mem_toList.mpr hname)
      | classRef _ => cases hname
      | constantRef _ => cases hname
      | other => cases hname
      | property _ _ _ => cases hinner
      | methodCall _ _ _ => cases hinner
      | call _ => cases hinner
      | classConstant _ _ => cases hinner

/-! ## Contexts that agree -/

namespace Context

/-- Contexts in which names of classes, functions and constants mean the same. -/
structure SameNames (ctx ctx' : Context) : Prop where
  currentNamespace : ctx.currentNamespace = ctx'.currentNamespace
  imports : ctx.imports = ctx'.imports
  enclosingClass : ctx.enclosingClass = ctx'.enclosingClass

/-- Contexts that agree on names and in which the given variables are looked up alike. -/
structure AgreeOn (names : List String) (ctx ctx' : Context) : Prop
    extends SameNames ctx ctx' where
  findVariable? : ∀ name ∈ names, ctx.findVariable? name = ctx'.findVariable? name

variable {ctx ctx' : Context}

theorem AgreeOn.mono {names names' : List String} (h : AgreeOn names ctx ctx')
    (hsubset : names' ⊆ names) : AgreeOn names' ctx ctx' :=
  ⟨h.toSameNames, fun name hname => h.findVariable? name (hsubset hname)⟩

namespace SameNames

variable (h : SameNames ctx ctx')

include h

theorem qualify : ctx.qualify = ctx'.qualify := by
  funext name
  simp only [Context.qualify, h.currentNamespace]

theorem expand : ctx.expand = ctx'.expand := by
  funext name
  simp only [Context.expand, h.imports, h.qualify]

theorem resolveClass : ctx.resolveClass = ctx'.resolveClass := by
  funext name
  simp only [Context.resolveClass, h.expand]

theorem candidates : ctx.candidates = ctx'.candidates := by
  funext name
  simp only [Context.candidates, h.expand, h.qualify]

theorem namedType (cb : CodeBase) : cb.namedType ctx = cb.namedType ctx' := by
  funext name
  simp only [CodeBase.namedType, h.enclosingClass, h.resolveClass]

theorem namedFunction (cb : CodeBase) : cb.namedFunction ctx = cb.namedFunction ctx' := by
  funext name
  simp only [CodeBase.namedFunction, h.candidates]

theorem namedConstant (cb : CodeBase) : cb.namedConstant ctx = cb.namedConstant ctx' := by
  funext name
  simp only [CodeBase.namedConstant, h.candidates]

end SameNames

end Context

/-! ## Answers in two contexts -/

namespace CodeBase

variable {cb : CodeBase} {ctx ctx' : Context} {n : Node}

/-- A node has the same type in both contexts, or none for the same reason, and adds the same to a
request. -/
structure SameAnswers (cb : CodeBase) (n : Node) (ctx ctx' : Context) : Prop where
  type : cb.typeOf ctx n = cb.typeOf ctx' n
  resolve : ∀ t req, (cb.resolver t).resolve ctx n req = (cb.resolver t).resolve ctx' n req

/-- Of the variables only the one that a chain begins with has to be looked up alike. -/
theorem beginsAlike_of_start (h : Context.AgreeOn n.start?.toList ctx ctx') :
    cb.BeginsAlike n ctx ctx' where
  type name _ := congrFun (h.namedType cb) name
  function name _ := congrFun (h.namedFunction cb) name
  constant name _ := congrFun (h.namedConstant cb) name
  lookup name hfirst := by
    apply h.findVariable?
    rw [Node.start?_of_first hfirst]
    exact List.mem_cons_self

theorem sameAnswers_of_start (h : Context.AgreeOn n.start?.toList ctx ctx') :
    cb.SameAnswers n ctx ctx' where
  type := (beginsAlike_of_start h).typeOf
  resolve := (beginsAlike_of_start h).resolve

theorem sameAnswers_of_mentions (h : Context.AgreeOn n.mentions ctx ctx') :
    cb.SameAnswers n ctx ctx' :=
  sameAnswers_of_start (h.mono fun name hname =>
    n.start?_mem_mentions name (Option.mem_toList.mp hname))

end CodeBase

/-! ## Scopes -/

namespace Scope

/-- The entries of each of the names are the same and in the same order. What stands between them
may differ. -/
def SameUnder (names : List String) (s s' : Scope) : Prop :=
  ∀ name ∈ names, s.entries.filter (·.name == Text.stripLeading '$' name) =
    s'.entries.filter (·.name == Text.stripLeading '$' name)

theorem find?_eq_of_sameUnder {names : List String} {s s' : Scope} (h : SameUnder names s s') :
    ∀ name ∈ names, s.find? name = s'.find? name := by
  intro name hname
  rw [find?, find?, ← List.head?_filter, ← List.head?_filter, h name hname]

/-- Where no name has two entries their order is free. -/
theorem sameUnder_of_perm {s s' : Scope} (hperm : s'.entries.Perm s.entries)
    (hdistinct : s.entries.Pairwise fun v w => v.name ≠ w.name) (names : List String) :
    SameUnder names s s' := by
  intro name _
  have hfiltered := hperm.filter (·.name == Text.stripLeading '$' name)
  have honce := hdistinct.filter (·.name == Text.stripLeading '$' name)
  have hnamed : ∀ v ∈ s.entries.filter (·.name == Text.stripLeading '$' name),
      v.name = Text.stripLeading '$' name := by
    intro v hv
    simpa using (List.mem_filter.mp hv).2
  generalize s.entries.filter (·.name == Text.stripLeading '$' name) = vs at *
  match vs with
  | [] => exact hfiltered.eq_nil.symm
  | [v] => exact (List.perm_singleton.mp hfiltered).symm
  | v :: w :: _ =>
    have hsame : v.name = w.name := by rw [hnamed v (by simp), hnamed w (by simp)]
    exact absurd hsame (List.rel_of_pairwise_cons honce List.mem_cons_self)

end Scope

theorem Context.agreeOn_of_sameUnder {names : List String} {ctx : Context} {scope : Scope}
    (h : ctx.scope.SameUnder names scope) (file : Option Url) (function : Option String) :
    AgreeOn names ctx
      { ctx with file := file, enclosingFunction := function, scope := scope } where
  currentNamespace := rfl
  imports := rfl
  enclosingClass := rfl
  findVariable? name hname := by
    simp only [Context.findVariable?, Scope.find?_eq_of_sameUnder h name hname]

namespace CodeBase

/-- A node has the same answers in contexts with the same namespace, imports and surrounding class
in which the variables that it mentions are looked up alike. So neither the file nor the surrounding
function decides anything, nor the order of a scope that lists no name twice, nor any variable that
the node does not mention. -/
theorem only_what_is_mentioned_matters (cb : CodeBase) (n : Node) :
    (∀ ctx ctx', Context.AgreeOn n.mentions ctx ctx' → cb.SameAnswers n ctx ctx') ∧
    (∀ ctx file function,
      cb.SameAnswers n ctx { ctx with file := file, enclosingFunction := function }) ∧
    (∀ ctx scope, scope.entries.Perm ctx.scope.entries →
      (ctx.scope.entries.Pairwise fun v w => v.name ≠ w.name) →
      cb.SameAnswers n ctx { ctx with scope := scope }) ∧
    ∀ ctx scope, ctx.scope.SameUnder n.mentions scope →
      cb.SameAnswers n ctx { ctx with scope := scope } := by
  refine ⟨fun _ _ h => sameAnswers_of_mentions h, fun ctx file function => ?_,
    fun ctx scope hperm hdistinct => ?_, fun ctx scope h => ?_⟩
  · have hsame : ctx.scope.SameUnder n.mentions ctx.scope := fun _ _ => rfl
    exact sameAnswers_of_mentions (Context.agreeOn_of_sameUnder hsame file function)
  · have hsame := Scope.sameUnder_of_perm hperm hdistinct n.mentions
    exact sameAnswers_of_mentions
      (Context.agreeOn_of_sameUnder hsame ctx.file ctx.enclosingFunction)
  · exact sameAnswers_of_mentions (Context.agreeOn_of_sameUnder h ctx.file ctx.enclosingFunction)

/-! ## A variable that the surrounding class overrides -/

namespace Blog

/-- `$this->latest()` -/
def onThis : Node :=
  Node.methodCall (Node.ofShape (.variable (.literal "$this"))) (.literal "latest")

/-- In the class `User`, where the scope says of `$this` that it is a `Post`. -/
def inUser : Context :=
  { (Context.empty.withClass "User") with
    scope := ⟨[⟨"this", instanceOf "Post"⟩, ⟨"u", instanceOf "User"⟩]⟩ }

/-- In the same class in another file, where the scope is empty. -/
def elsewhere : Context :=
  { (Context.empty.withClass "User") with
    file := some sources, enclosingFunction := some "first" }

end Blog

open Blog in
/-- Inside a class `$this` is an instance of it, and no more is asked of the context. So the entries
of the scope may also change places, and the one of `$u` may go. -/
theorem only_what_is_mentioned_matters_blog :
    Context.AgreeOn onThis.mentions inUser elsewhere ∧
    codeBase.typeOf elsewhere onThis = .ok (instanceOf "Post") ∧
    codeBase.typeOf inUser onThis = .ok (instanceOf "Post") ∧
    ((codeBase.resolver Toggles.all).resolve inUser onThis (Request.start .definition)).records =
      [.declaration (.method ⟨⟨user.name, "latest"⟩, false, instanceOf "Post",
        Location.atLine sources 4⟩) true] ∧
    codeBase.typeOf { inUser with scope := ⟨inUser.scope.entries.reverse⟩ } onThis =
      .ok (instanceOf "Post") ∧
    codeBase.typeOf { inUser with scope := ⟨inUser.scope.entries.take 1⟩ } onThis =
      .ok (instanceOf "Post") := by
  obtain ⟨hagreeing, -, hreordered, hunmentioned⟩ := only_what_is_mentioned_matters codeBase onThis
  have hagree : Context.AgreeOn onThis.mentions inUser elsewhere :=
    ⟨⟨rfl, rfl, rfl⟩, by decide +kernel⟩
  have hsame := hagreeing inUser elsewhere hagree
  have hreversed := hreordered inUser ⟨inUser.scope.entries.reverse⟩
    (List.reverse_perm _) (by decide +kernel)
  have hshorter := hunmentioned inUser ⟨inUser.scope.entries.take 1⟩
    (by unfold Scope.SameUnder; decide +kernel)
  have hthis : codeBase.typeOf elsewhere (Node.ofShape (.variable (.literal "$this"))) =
      .ok (instanceOf "User") := eq_ok_of_toOption (by decide +kernel)
  have hmethod := methodOf_latest (Node.ofShape (.variable (.literal "$this"))) "User"
    (by decide +kernel)
  have htype : codeBase.typeOf elsewhere onThis = .ok (instanceOf "Post") := by
    rw [onThis, Node.methodCall, Node.ofShape, typeOf_methodCall, hthis, hmethod]
    rfl
  have htype' := hsame.type.trans htype
  have hfound : (codeBase.resolver Toggles.all).targets .definition elsewhere onThis =
      .ok [.declaration (.method ⟨⟨user.name, "latest"⟩, false, instanceOf "Post",
        Location.atLine sources 4⟩) true] := by
    rw [onThis, Node.methodCall, Node.ofShape, targets_methodCall, hthis, hmethod]
    rfl
  have hrecords := (Resolver.contribution_eq_records _ .definition (elsewhere, onThis)).trans
    (Resolver.records_of_targets rfl hfound)
  refine ⟨hagree, htype, htype', ?_, hreversed.type.symm.trans htype',
    hshorter.type.symm.trans htype'⟩
  rw [hsame.resolve]
  exact hrecords

end CodeBase

end GotoDefinition
