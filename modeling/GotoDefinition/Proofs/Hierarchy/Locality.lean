import GotoDefinition.Proofs.Hierarchy.Interfaces
import GotoDefinition.Proofs.Targets

/-!
# GotoDefinition.Proofs.Hierarchy.Locality

Looking a member up is local.

A search asks for the class that it starts with and for the classes that the entries refer to which
it comes to, whether or not they are in the index. `ReachesName` holds of the names that it may ask
for. What stands under other names decides nothing, so that a class may come to the index elsewhere
without changing the order in which the hierarchy is searched.

* `reachesName_of_reaches` — what can be reached refers to names that can be reached.
* `lineage_local` — the lineage depends on the entries of these names alone.
* `lookup_is_local` — so does every member; for a property the listed interfaces do not count.
-/

namespace GotoDefinition

namespace CodeBase

/-- The name is that of the class, or is referred to by the entry of such a name. -/
inductive ReachesName (cb : CodeBase) (withInterfaces : Bool) (c : ClassName) :
    ClassName → Prop where
  | start : ReachesName cb withInterfaces c c
  | base {d d' : ClassName} {e : ClassEntry} (h : ReachesName cb withInterfaces c d)
      (hfind : cb.findClass? d = some e) (hrefers : e.Refers withInterfaces d') :
      ReachesName cb withInterfaces c d'

variable {A B cb : CodeBase} {b : Bool} {c : ClassName}

/-! ## Names that can be reached -/

theorem reachesName_of_reaches {e : ClassEntry} (h : cb.Reaches b c e) :
    ∀ d, e.Refers b d → cb.ReachesName b c d := by
  obtain ⟨root, hroot, hpath⟩ := h
  induction hpath with
  | refl => exact fun d hd => .base .start hroot hd
  | tail _ hstep ih =>
    obtain ⟨d', hd', hfind⟩ := hstep
    exact fun d hd => .base (ih d' hd') hfind hd

namespace ReachesName

theorem withInterfaces {d : ClassName} (h : cb.ReachesName false c d) :
    cb.ReachesName true c d := by
  induction h with
  | start => exact .start
  | base _ hfind hrefers ih => exact .base ih hfind hrefers.withInterfaces

/-- Where no interfaces are listed, nothing is reached by way of one. -/
theorem of_withoutInterfaces {d : ClassName} (h : cb.withoutInterfaces.ReachesName true c d) :
    cb.ReachesName false c d := by
  induction h with
  | start => exact .start
  | base _ hfind hrefers ih =>
    rw [findClass?_withoutInterfaces] at hfind
    obtain ⟨e, he, rfl⟩ := Option.map_eq_some_iff.mp hfind
    rw [← ClassEntry.mem_bases_iff, bases_withoutInterfaces, ClassEntry.mem_bases_iff] at hrefers
    exact .base ih he hrefers

/-- Keys among which the entries under them stay hold of everything that is reached. -/
theorem key_mem_of_closed {d : ClassName} (keys : List String) (hstart : c.key ∈ keys)
    (hclosed : ∀ e ∈ cb.classes.items, e.name.key ∈ keys → ∀ f ∈ e.bases b, f.key ∈ keys)
    (h : cb.ReachesName b c d) : d.key ∈ keys := by
  induction h with
  | start => exact hstart
  | base _ hfind hrefers ih =>
    refine hclosed _ (Index.mem_of_find? hfind) ?_ _ (ClassEntry.mem_bases_iff.mpr hrefers)
    rw [key_of_findClass? hfind]
    exact ih

end ReachesName

/-! ## Searching in two code bases -/

theorem lineage_local (h : ∀ d, A.ReachesName b c d → A.findClass? d = B.findClass? d) :
    A.lineage b c = B.lineage b c := by
  refine lineage_transfer (h c .start) ?_
  intro e he d hd
  exact h d (reachesName_of_reaches (mem_lineage_iff.mp he) d (ClassEntry.mem_bases_iff.mp hd))

theorem findMember?_local {α : Type}
    (h : ∀ d, A.ReachesName b c d → A.findClass? d = B.findClass? d)
    (pick : ClassEntry → Option α) : A.findMember? b c pick = B.findMember? b c pick := by
  rw [findMember?, findMember?, lineage_local h]

/-- The two hierarchies are compared after their interfaces have been taken out. -/
theorem findProperty?_local
    (h : ∀ d, A.ReachesName false c d →
      (A.findClass? d).map ClassEntry.withoutInterfaces =
        (B.findClass? d).map ClassEntry.withoutInterfaces) (name : String) (isStatic : Bool) :
    A.findProperty? c name isStatic = B.findProperty? c name isStatic := by
  have hpick : ∀ f : ClassEntry,
      f.withoutInterfaces.findProperty? name isStatic = f.findProperty? name isStatic :=
    fun _ => rfl
  have hbare : ∀ d, A.withoutInterfaces.ReachesName true c d →
      A.withoutInterfaces.findClass? d = B.withoutInterfaces.findClass? d := by
    intro d hd
    rw [findClass?_withoutInterfaces, findClass?_withoutInterfaces]
    exact h d hd.of_withoutInterfaces
  calc
    A.findProperty? c name isStatic
      = A.withoutInterfaces.findMember? true c (·.findProperty? name isStatic) :=
        (findMember?_withoutInterfaces hpick c).symm
    _ = B.withoutInterfaces.findMember? true c (·.findProperty? name isStatic) :=
        findMember?_local hbare _
    _ = B.findProperty? c name isStatic := findMember?_withoutInterfaces hpick c

/-- Code bases that have the same entry, or both none, under every name that can be reached from a
class find the same members of it. For its properties they need to agree only on the names that
traits and parents lead to, and there not on the interfaces that an entry lists. -/
theorem lookup_is_local (A B : CodeBase) (c : ClassName) :
    ((∀ d, A.ReachesName true c d → A.findClass? d = B.findClass? d) →
      (∀ name isStatic, A.findProperty? c name isStatic = B.findProperty? c name isStatic) ∧
      (∀ name, A.findMethod? c name = B.findMethod? c name) ∧
      ∀ name, A.findClassConstant? c name = B.findClassConstant? c name) ∧
    ((∀ d, A.ReachesName false c d →
        (A.findClass? d).map ClassEntry.withoutInterfaces =
          (B.findClass? d).map ClassEntry.withoutInterfaces) →
      ∀ name isStatic, A.findProperty? c name isStatic = B.findProperty? c name isStatic) := by
  refine ⟨fun h => ⟨?_, fun _ => findMember?_local h _, fun _ => findMember?_local h _⟩,
    findProperty?_local⟩
  refine findProperty?_local fun d hd => ?_
  rw [h d hd.withInterfaces]

/-! ## A hierarchy beside which others grow -/

namespace Pages

def sources : Url :=
  ⟨"file:///src/pages.php"⟩

/-- `class Page extends Layout` -/
def page (interfaces : List ClassName) : ClassEntry :=
  ⟨Name.ofText "Page", .ordinary, sources, 4, some (Name.ofText "Layout"), interfaces,
    [], [], [], []⟩

/-- `string $title` of a layout. -/
def title : PropertyEntry :=
  ⟨"title", 12, false, UnionType.ofList [.native .string]⟩

def render (line : UInt32) : MethodEntry :=
  ⟨"render", line, false, UnionType.empty⟩

/-- `class Layout extends Page { use Ghost; }` closes a circle, and nobody declares `Ghost`. -/
def layout : ClassEntry :=
  ⟨Name.ofText "Layout", .ordinary, sources, 10, some (Name.ofText "Page"), [],
    [Name.ofText "Ghost"], [title], [render 14], []⟩

def widget : ClassEntry :=
  ⟨Name.ofText "Widget", .interface, sources, 20, none, [], [], [], [render 21], []⟩

def codeBase : CodeBase :=
  ofSnapshot ⟨[page [], layout], [], []⟩

/-- The same pages among other classes and in another order. -/
def grown : CodeBase :=
  ofSnapshot ⟨[widget, layout, page []], [], []⟩

/-- Here `Page` is a `Widget`. -/
def implementing : CodeBase :=
  ofSnapshot ⟨[layout, widget, page [widget.name]], [], []⟩

/-- All that is reached from a page. -/
def keys : List String :=
  ["\\page", "\\layout", "\\ghost"]

theorem key_mem_keys {b : Bool} {d : ClassName}
    (h : codeBase.ReachesName b (page []).name d) : d.key ∈ keys := by
  refine h.key_mem_of_closed keys (by decide +kernel) ?_
  cases b <;> decide +kernel

end Pages

open Pages in
/-- What `Page` inherits from `Layout` is not changed by a class that is declared elsewhere, nor its
properties by an interface of `Page` itself. -/
theorem lookup_is_local_pages :
    (∀ d, codeBase.ReachesName true (page []).name d →
      codeBase.findClass? d = grown.findClass? d) ∧
    codeBase.findClass? widget.name ≠ grown.findClass? widget.name ∧
    grown.findMethod? (page []).name "RENDER" =
      some ⟨⟨layout.name, "render"⟩, false, UnionType.empty, ⟨sources, ⟨⟨14, 0⟩, ⟨14, 0⟩⟩⟩⟩ ∧
    (∀ d, codeBase.ReachesName false (page []).name d →
      (codeBase.findClass? d).map ClassEntry.withoutInterfaces =
        (implementing.findClass? d).map ClassEntry.withoutInterfaces) ∧
    codeBase.findClass? (page []).name ≠ implementing.findClass? (page []).name ∧
    implementing.findProperty? (page []).name "$title" false =
      some ⟨⟨layout.name, "title"⟩, false, title.type, ⟨sources, ⟨⟨12, 0⟩, ⟨12, 0⟩⟩⟩⟩ := by
  have hgrown : ∀ d, codeBase.ReachesName true (page []).name d →
      codeBase.findClass? d = grown.findClass? d := by
    intro d hd
    have hsame : ∀ k ∈ keys, codeBase.classes.find? k = grown.classes.find? k := by
      decide +kernel
    exact hsame d.key (key_mem_keys hd)
  have himplementing : ∀ d, codeBase.ReachesName false (page []).name d →
      (codeBase.findClass? d).map ClassEntry.withoutInterfaces =
        (implementing.findClass? d).map ClassEntry.withoutInterfaces := by
    intro d hd
    have hsame : ∀ k ∈ keys, (codeBase.classes.find? k).map ClassEntry.withoutInterfaces =
        (implementing.classes.find? k).map ClassEntry.withoutInterfaces := by
      decide +kernel
    exact hsame d.key (key_mem_keys hd)
  obtain ⟨hmembers, -⟩ := lookup_is_local codeBase grown (page []).name
  obtain ⟨-, hproperties⟩ := lookup_is_local codeBase implementing (page []).name
  have hpage : codeBase.findClass? (page []).name = some (page []) := by decide +kernel
  have hlayout : codeBase.findClass? (Name.ofText "Layout") = some layout := by decide +kernel
  have hnew : (Name.ofText "Layout" : ClassName).key ≠ (page []).name.key := by decide +kernel
  refine ⟨hgrown, by decide +kernel, ?_, himplementing, by decide +kernel, ?_⟩
  · rw [← (hmembers hgrown).2.1]
    exact findMember?_firstBase hpage rfl rfl hnew hlayout (by decide +kernel)
  · rw [← hproperties himplementing]
    exact findMember?_firstBase hpage rfl rfl hnew hlayout (by decide +kernel)

end CodeBase

end GotoDefinition
