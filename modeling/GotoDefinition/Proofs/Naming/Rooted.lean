import GotoDefinition.Proofs.Beginning
import GotoDefinition.Proofs.Naming.Aliases
import GotoDefinition.Proofs.Spelling.Nodes

/-!
# GotoDefinition.Proofs.Naming.Rooted

Namespaces and targets of imports that are written with a `\` in front.

A canonical name starts with one `\`, however many the text starts with. So texts without white
space that are equal but for the `\`s in front have the same canonical name, and putting a namespace
in front of a name, or the target of an import in the place of its first segment, keeps them equal.
A namespace of `\`s alone is like none: what is sought in it is then sought globally, once more.

* `Name.ofText_eq_of_unrooted` — the canonical name.
* `Context.unrooted_qualify`, `Context.unrooted_expand` — names with something in front.
* `CodeBase.leading_backslashes_do_not_matter` — a context without them gives the same answers.
-/

namespace GotoDefinition

variable {α : Type}

/-! ## Texts -/

namespace Text

/-- No white space. -/
def Unspaced (s : String) : Prop :=
  ∀ c ∈ s.toList, isBlank c = false

instance (s : String) : Decidable (Unspaced s) :=
  List.decidableBAll (fun c => isBlank c = false) s.toList

theorem Unspaced.append {a b : String} (ha : Unspaced a) (hb : Unspaced b) :
    Unspaced (a ++ b) := by
  intro c hc
  rw [String.toList_append] at hc
  exact (List.mem_append.mp hc).elim (ha c) (hb c)

theorem Unspaced.of_subset {a : String} (ha : Unspaced a) {cs : List Char} (h : cs ⊆ a.toList) :
    Unspaced (String.ofList cs) := by
  intro c hc
  rw [String.toList_ofList] at hc
  exact ha c (h hc)

theorem Unspaced.stripLeading {a : String} (ha : Unspaced a) (c : Char) :
    Unspaced (stripLeading c a) :=
  ha.of_subset (dropLeading_sublist c _).subset

theorem Unspaced.trim_eq {a : String} (ha : Unspaced a) : trim a.toList = a.toList :=
  trim_eq_self (fun c hc => ha c (List.mem_of_head? hc)) fun c hc => ha c (List.mem_of_getLast? hc)

theorem stripLeading_backslash (s : String) :
    stripLeading '\\' ("\\" ++ s) = stripLeading '\\' s := by
  have htext : ("\\" ++ s).toList = '\\' :: s.toList := by
    rw [String.toList_append]
    rfl
  rw [stripLeading, htext, dropLeading_cons_self, stripLeading]

end Text

/-- A canonical name does not depend on the `\`s in front of the text. -/
theorem Name.ofText_eq_of_unrooted {kind : NameKind} {a b : String} (ha : Text.Unspaced a)
    (hb : Text.Unspaced b) (h : Text.stripLeading '\\' a = Text.stripLeading '\\' b) :
    (ofText a : Name kind) = ofText b := by
  rw [Text.stripLeading, Text.stripLeading, String.ofList_inj] at h
  apply ext_text
  simp only [ofText, GotoDefinition.canonical, ha.trim_eq, hb.trim_eq, h]

/-! ## Imports -/

namespace Imports

/-- The same aliases with other targets. -/
def mapTargets (f : String → String) (is : Imports) : Imports where
  entries := is.entries.map fun e => (e.1, f e.2)
  ascending := by
    rw [List.pairwise_map]
    exact is.ascending

theorem find?_mapTargets (f : String → String) (is : Imports) (key : String) :
    (is.mapTargets f).find? key = (is.find? key).map f := by
  simp only [find?, mapTargets, List.find?_map, Function.comp_def]
  cases is.entries.find? (·.1 == key) with
  | none => simp [Function.comp_def]
  | some e => rfl

end Imports

/-! ## Contexts -/

namespace Context

/-- The context without the `\`s in front of its namespace and of the targets of its imports. -/
def unrooted (ctx : Context) : Context :=
  { ctx with
    currentNamespace := ctx.currentNamespace.map stripBackslashes
    imports := ctx.imports.mapTargets stripBackslashes }

/-- There is no white space in the namespace and in the targets of the imports. -/
structure Unspaced (ctx : Context) : Prop where
  currentNamespace : ∀ ns ∈ ctx.currentNamespace, Text.Unspaced ns
  targets : ∀ e ∈ ctx.imports.entries, Text.Unspaced e.2

theorem Unspaced.unrooted {ctx : Context} (h : ctx.Unspaced) : ctx.unrooted.Unspaced where
  currentNamespace := by
    intro ns hns
    obtain ⟨written, hwritten, rfl⟩ := Option.map_eq_some_iff.mp hns
    exact (h.currentNamespace written hwritten).stripLeading _
  targets := by
    intro e he
    obtain ⟨written, hwritten, rfl⟩ := List.mem_map.mp he
    exact (h.targets written hwritten).stripLeading _

variable {ctx : Context} {name : String}

theorem Unspaced.qualify (h : ctx.Unspaced) (hname : Text.Unspaced name) :
    Text.Unspaced (ctx.qualify name) := by
  rw [Context.qualify]
  split
  · rename_i ns hns
    split
    · exact hname
    · exact ((h.currentNamespace ns hns).append (by decide)).append hname
  · exact hname

theorem Unspaced.expand (h : ctx.Unspaced) (hname : Text.Unspaced name) :
    Text.Unspaced (ctx.expand name) := by
  rw [Context.expand]
  split
  · rename_i target htarget
    obtain ⟨e, he, rfl⟩ := (Imports.gives_of_find? htarget).entry
    exact (h.targets e he).append (hname.of_subset (List.dropWhile_sublist _).subset)
  · exact h.qualify hname

/-! ## Names with a namespace or a target in front -/

/-- Without a namespace a `\` alone stands in front of the name, which is dropped again. -/
theorem stripLeading_qualify (ctx : Context) (name : String) :
    Text.stripLeading '\\' (ctx.qualify name) =
      Text.stripLeading '\\' (ctx.currentNamespace.getD "" ++ ("\\" ++ name)) := by
  rw [Context.qualify]
  cases ctx.currentNamespace with
  | none => rw [Option.getD_none, String.empty_append, Text.stripLeading_backslash]
  | some ns =>
    dsimp only [Option.getD_some]
    split
    · rename_i hempty
      rw [String.isEmpty_iff.mp hempty, String.empty_append, Text.stripLeading_backslash]
    · rw [String.append_assoc]

theorem stripLeading_unrooted_qualify (ctx : Context) (name : String) :
    Text.stripLeading '\\' (ctx.unrooted.qualify name) =
      Text.stripLeading '\\' (ctx.qualify name) := by
  have hns : ctx.unrooted.currentNamespace.getD "" =
      Text.stripLeading '\\' (ctx.currentNamespace.getD "") := by
    rw [unrooted]
    cases ctx.currentNamespace with
    | none => rfl
    | some ns => rfl
  rw [stripLeading_qualify, stripLeading_qualify, hns, Text.stripLeading_append]

theorem stripLeading_unrooted_expand (ctx : Context) (name : String) :
    Text.stripLeading '\\' (ctx.unrooted.expand name) =
      Text.stripLeading '\\' (ctx.expand name) := by
  have hfind : ∀ key, ctx.unrooted.imports.find? key =
      (ctx.imports.find? key).map stripBackslashes := ctx.imports.find?_mapTargets stripBackslashes
  rw [Context.expand, Context.expand]
  simp only [hfind]
  cases ctx.imports.find? (String.ofList (name.toList.takeWhile (· != '\\'))) with
  | none => exact stripLeading_unrooted_qualify ctx name
  | some target => exact Text.stripLeading_append _ target _

theorem unrooted_qualify {kind : NameKind} (h : ctx.Unspaced) (hname : Text.Unspaced name) :
    (Name.ofText (ctx.unrooted.qualify name) : Name kind) = Name.ofText (ctx.qualify name) :=
  Name.ofText_eq_of_unrooted (h.unrooted.qualify hname) (h.qualify hname)
    (stripLeading_unrooted_qualify ctx name)

theorem unrooted_expand {kind : NameKind} (h : ctx.Unspaced) (hname : Text.Unspaced name) :
    (Name.ofText (ctx.unrooted.expand name) : Name kind) = Name.ofText (ctx.expand name) :=
  Name.ofText_eq_of_unrooted (h.unrooted.expand hname) (h.expand hname)
    (stripLeading_unrooted_expand ctx name)

theorem unrooted_resolveClass (h : ctx.Unspaced) (hname : Text.Unspaced name) :
    ctx.unrooted.resolveClass name = ctx.resolveClass name := by
  by_cases hrooted : ∃ cs, name.toList = '\\' :: cs
  · obtain ⟨cs, hcs⟩ := hrooted
    rw [resolveClass_rooted hcs, resolveClass_rooted hcs]
  · have hrelative : ∀ cs, name.toList ≠ '\\' :: cs := fun cs hcs => hrooted ⟨cs, hcs⟩
    rw [resolveClass_relative hrelative, resolveClass_relative hrelative, unrooted_expand h hname]

/-- A name of one segment is sought in the namespace and then globally. Without a namespace this is
one place, and looking there twice finds nothing new. -/
theorem findSome?_candidates {kind : NameKind} (ctx : Context) (find : Name kind → Option α)
    (hrelative : ∀ cs, name.toList ≠ '\\' :: cs)
    (hsingle : ¬name.toList.contains '\\' = true) :
    (ctx.candidates name).findSome? (fun text => find (Name.ofText text)) =
      (find (Name.ofText (ctx.qualify name))).or (find (Name.ofText name)) := by
  have hself := qualify_beq_self ctx name
  rw [candidates_relative hrelative, if_neg hsingle]
  split
  · rename_i hempty
    rw [hempty, beq_iff_eq] at hself
    rw [hself]
    cases hfind : find (Name.ofText name) with
    | none => simp [hfind]
    | some a => simp [hfind]
  · simp only [List.findSome?_cons, List.findSome?_nil]
    cases find (Name.ofText (ctx.qualify name)) with
    | none => cases find (Name.ofText name) <;> rfl
    | some a => rfl

theorem unrooted_candidates {kind : NameKind} (h : ctx.Unspaced) (hname : Text.Unspaced name)
    (find : Name kind → Option α) :
    (ctx.unrooted.candidates name).findSome? (fun text => find (Name.ofText text)) =
      (ctx.candidates name).findSome? fun text => find (Name.ofText text) := by
  by_cases hrooted : ∃ cs, name.toList = '\\' :: cs
  · obtain ⟨cs, hcs⟩ := hrooted
    rw [candidates_rooted hcs, candidates_rooted hcs]
  · have hrelative : ∀ cs, name.toList ≠ '\\' :: cs := fun cs hcs => hrooted ⟨cs, hcs⟩
    by_cases hsingle : name.toList.contains '\\' = true
    · rw [candidates_relative hrelative, candidates_relative hrelative, if_pos hsingle,
        if_pos hsingle]
      simp only [List.findSome?_cons, unrooted_expand h hname]
    · rw [findSome?_candidates ctx.unrooted find hrelative hsingle,
        findSome?_candidates ctx find hrelative hsingle, unrooted_qualify h hname]

end Context

/-! ## Names of a node -/

mutual

/-- The names that are written in a node, at any depth. -/
def Node.names : Node → List String
  | .mk shape _ => shape.names

def Shape.names : Shape → List String
  | .classRef name => [name]
  | .property _ receiver name => receiver.names ++ name.names
  | .methodCall _ receiver name => receiver.names ++ name.names
  | .call callee => callee.names
  | .classConstant receiver name => receiver.names ++ name.names
  | .constantRef name => [name]
  | .variable name => name.names
  | .other => []

def NameSlot.names : NameSlot → List String
  | .literal name => [name]
  | .computed node => node.names

end

theorem Node.names_eq_shape (n : Node) : n.names = n.shape.names := by
  cases n
  rfl

theorem Node.names_inner {m n : Node} (h : n.inner? = some m) : m.names ⊆ n.names := by
  obtain ⟨shape, range⟩ := n
  cases shape <;> cases h <;> simp [Node.names, Shape.names]

theorem Node.names_first (n : Node) : n.first.names ⊆ n.names := by
  induction n using Node.induction with
  | step n ih =>
    cases hinner : n.inner? with
    | none =>
      rw [Node.first_of_inner_none hinner]
      exact List.Subset.refl _
    | some m =>
      rw [Node.first_inner hinner]
      exact List.Subset.trans (ih m hinner) (Node.names_inner hinner)

namespace CodeBase

variable {cb : CodeBase} {ctx : Context} {name : String}

/-! ## Answers -/

theorem findVariable?_unrooted (ctx : Context) (name : String) :
    ctx.findVariable? name = ctx.unrooted.findVariable? name := by
  rw [Context.findVariable?, Context.findVariable?]
  rfl

theorem namedType_unrooted (h : ctx.Unspaced) (hname : Text.Unspaced name) :
    cb.namedType ctx name = cb.namedType ctx.unrooted name := by
  simp only [namedType, Context.unrooted_resolveClass h hname]
  rfl

theorem namedFunction_unrooted (h : ctx.Unspaced) (hname : Text.Unspaced name) :
    cb.namedFunction ctx name = cb.namedFunction ctx.unrooted name := by
  rw [namedFunction, namedFunction, Context.unrooted_candidates h hname cb.findFunction?]

theorem namedConstant_unrooted (h : ctx.Unspaced) (hname : Text.Unspaced name) :
    cb.namedConstant ctx name = cb.namedConstant ctx.unrooted name := by
  rw [namedConstant, namedConstant, Context.unrooted_candidates h hname cb.findConstant?]

/-- Where there is no white space in the names of a node, in the namespace and in the targets of the
imports, `\`s in front of the last two decide nothing: without them every question about the node
has the same answer, or fails for the same reason, and the node adds the same to a request. -/
theorem leading_backslashes_do_not_matter (cb : CodeBase) {ctx : Context} (hctx : ctx.Unspaced)
    {n : Node} (hn : ∀ name ∈ n.names, Text.Unspaced name) :
    cb.AnsweredAlike n ctx ctx.unrooted := by
  have hfirst : ∀ name ∈ n.first.shape.names, Text.Unspaced name := by
    intro name hname
    rw [← Node.names_eq_shape] at hname
    exact hn name (n.names_first hname)
  refine BeginsAlike.answeredAlike
    ⟨?type, ?function, ?constant, fun name _ => findVariable?_unrooted ctx name⟩
  case type =>
    intro name hshape
    rw [hshape] at hfirst
    exact namedType_unrooted hctx (hfirst name List.mem_cons_self)
  case function =>
    intro name hshape
    rw [hshape] at hfirst
    exact namedFunction_unrooted hctx (hfirst name List.mem_cons_self)
  case constant =>
    intro name hshape
    rw [hshape] at hfirst
    exact namedConstant_unrooted hctx (hfirst name List.mem_cons_self)

/-! ## A namespace of backslashes alone -/

namespace Shop

/-- `function open(): Cart` in no namespace. -/
def opens : FunctionEntry :=
  ⟨Name.ofText "open", sources, 20, cartType⟩

def withFunction : CodeBase :=
  ofSnapshot ⟨[cart], [opens], []⟩

/-- The namespace is written `\\` and `S` is an alias of `\\Shop`. -/
def slashed : Context :=
  { Context.empty with
    currentNamespace := some "\\\\", imports := Imports.empty.insert "S" "\\\\Shop" }

/-- `S\Cart::$current->total()` -/
def qualified : Node :=
  chain "S\\Cart" "current" "total"

theorem typeOf_qualified :
    withFunction.typeOf slashed.unrooted qualified = .ok (UnionType.ofList [.native .int]) := by
  have hfind : withFunction.findClass? (Name.ofText "Shop\\Cart") = some cart := by
    decide +kernel
  have hclass : withFunction.typeOf slashed.unrooted (Node.classRef "S\\Cart") = .ok cartType :=
    eq_ok_of_toOption (by decide +kernel)
  have hproperty : withFunction.propertyOf (Node.classRef "S\\Cart") (.ok cartType)
      (.literal "current") true = .ok ⟨⟨cart.name, "current"⟩, true, cartType,
        Location.atLine sources 6⟩ := propertyOf_instance hfind (by decide +kernel) _
  have hmethod : withFunction.methodOf
      (Node.staticProperty (Node.classRef "S\\Cart") (.literal "current")) (.ok cartType) "total" =
      .ok ⟨⟨cart.name, "total"⟩, false, UnionType.ofList [.native .int],
        Location.atLine sources 9⟩ := methodOf_instance hfind (by decide +kernel) _
  have hreceiver : withFunction.typeOf slashed.unrooted
      (Node.staticProperty (Node.classRef "S\\Cart") (.literal "current")) = .ok cartType := by
    rw [Node.staticProperty, Node.ofShape, typeOf_property, hclass, hproperty]
    rfl
  rw [qualified, chain, Node.methodCall, Node.ofShape, typeOf_methodCall, hreceiver, hmethod]
  rfl

end Shop

open Shop in
/-- The function is sought twice in one place, and the class under the alias. -/
theorem leading_backslashes_do_not_matter_shop :
    slashed.Unspaced ∧ (∀ name ∈ qualified.names, Text.Unspaced name) ∧
    (∀ name ∈ (Node.classRef "open").names, Text.Unspaced name) ∧
    withFunction.typeOf slashed qualified = .ok (UnionType.ofList [.native .int]) ∧
    slashed.candidates "open" = ["\\\\\\open", "open"] ∧
    withFunction.members.functions slashed (Node.classRef "open") = [.ok opens.decl] := by
  have hspaced : slashed.Unspaced := ⟨by decide +kernel, by decide +kernel⟩
  have hchain : ∀ name ∈ qualified.names, Text.Unspaced name := by decide +kernel
  have hname : ∀ name ∈ (Node.classRef "open").names, Text.Unspaced name := by decide +kernel
  have htype := (leading_backslashes_do_not_matter withFunction hspaced hchain).type
  have hfunctions := (leading_backslashes_do_not_matter withFunction hspaced hname).functions
  have hfound : withFunction.namedFunction slashed.unrooted "open" = .ok opens.decl :=
    eq_ok_of_toOption (by decide +kernel)
  have hcandidates : slashed.candidates "open" = ["\\\\\\open", "open"] := by decide +kernel
  have hone : withFunction.members.functions slashed.unrooted (Node.classRef "open") =
      [withFunction.namedFunction slashed.unrooted "open"] := rfl
  refine ⟨hspaced, hchain, hname, htype.trans typeOf_qualified, hcandidates, ?_⟩
  rw [hfunctions, hone, hfound]

end CodeBase

end GotoDefinition
