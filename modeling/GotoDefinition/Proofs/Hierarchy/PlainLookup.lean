import GotoDefinition.Proofs.Hierarchy.Reachable

/-!
# GotoDefinition.Proofs.Hierarchy.PlainLookup

Looking a member up by plain recursion.

`plainLookup` asks the class, then its traits, its parent and its interfaces, as often as it comes
to them: it keeps no record of the classes it has met. On a hierarchy without cycles it ends and
finds what the walk finds. A class that the walk passes over because it was met has been searched to
its end without success, or the search would have stopped there; it cannot be one whose search is
still going on, for then it would be its own base.

* `plainLookup_succ`, `plainLookup_mono` — one step of the recursion, and what it found from deeper.
* `Collects.leadsAmong` — the two agree on every run, together with what is known of the classes
  that were met.
* `findMember?_eq_plainLookup` — they agree for members of every kind.
-/

namespace GotoDefinition

namespace CodeBase

/-! ## The recursion -/

section

variable {α : Type}

/-- The second search counts when the first one ends without success. -/
def orElseSearch (first second : Option (Option α)) : Option (Option α) :=
  match first with
  | none => none
  | some (some a) => some (some a)
  | some none => second

variable (cb : CodeBase) (withInterfaces : Bool) (pick : ClassEntry → Option α)

/-- The member of the class itself, else what its traits lead to, one after the other, else what its
parent leads to and, where interfaces count, what these lead to. The recursion is followed to a
depth; the outer `none` is a search that was not done there. -/
def plainLookup : Nat → ClassName → Option (Option α)
  | 0, _ => none
  | depth + 1, c =>
    match cb.findClass? c with
    | none => some none
    | some e =>
      orElseSearch (some (pick e)) <|
        orElseSearch (e.traits.findSomeM? (plainLookup depth)) <|
          orElseSearch (e.parent.toList.findSomeM? (plainLookup depth)) <|
            if withInterfaces then e.interfaces.findSomeM? (plainLookup depth) else some none

/-- The recursion ends, and comes to this. -/
def Leads (c : ClassName) (result : Option α) : Prop :=
  ∃ depth, cb.plainLookup withInterfaces pick depth c = some result

/-- The recursion ends for the classes, one after the other until one leads to a member. -/
def LeadsAmong (cs : List ClassName) (result : Option α) : Prop :=
  ∃ depth, cs.findSomeM? (cb.plainLookup withInterfaces pick depth) = some result

end

/-- No class that can be reached is its own base, directly or through others. -/
def AcyclicFrom (cb : CodeBase) (withInterfaces : Bool) (c : ClassName) : Prop :=
  ∀ e, cb.Reaches withInterfaces c e → ¬Relation.TransGen (cb.Extends withInterfaces) e e

variable {cb : CodeBase} {b : Bool} {α : Type} {pick : ClassEntry → Option α}

/-! ## One step and many -/

theorem findSomeM?_append {f : ClassName → Option (Option α)} (cs ds : List ClassName) :
    (cs ++ ds).findSomeM? f = orElseSearch (cs.findSomeM? f) (ds.findSomeM? f) := by
  induction cs with
  | nil => rfl
  | cons c cs ih =>
    rw [List.cons_append, List.findSomeM?_cons, List.findSomeM?_cons, ih]
    cases f c with
    | none => rfl
    | some found => cases found <;> rfl

/-- The classes that a class refers to are asked in the order in which the walk goes on with
them. -/
theorem plainLookup_succ {c : ClassName} {e : ClassEntry} (hfind : cb.findClass? c = some e)
    (depth : Nat) :
    cb.plainLookup b pick (depth + 1) c =
      orElseSearch (some (pick e)) ((e.bases b).findSomeM? (cb.plainLookup b pick depth)) := by
  have hinterfaces : (if b then e.interfaces else []).findSomeM? (cb.plainLookup b pick depth) =
      if b then e.interfaces.findSomeM? (cb.plainLookup b pick depth) else some none := by
    cases b <;> rfl
  rw [plainLookup, hfind, ClassEntry.bases, List.append_assoc, findSomeM?_append,
    findSomeM?_append, hinterfaces]

theorem findSomeM?_mono {f g : ClassName → Option (Option α)}
    (hfg : ∀ c r, f c = some r → g c = some r) {cs : List ClassName} {r : Option α}
    (h : cs.findSomeM? f = some r) : cs.findSomeM? g = some r := by
  induction cs with
  | nil => exact h
  | cons c cs ih =>
    rw [List.findSomeM?_cons] at h ⊢
    cases hc : f c with
    | none =>
      rw [hc] at h
      cases h
    | some found =>
      rw [hc] at h
      rw [hfg c found hc]
      cases found with
      | some a => exact h
      | none => exact ih h

/-- A search that was done stays done when the recursion is followed further down. -/
theorem plainLookup_step {depth : Nat} {c : ClassName} {r : Option α}
    (h : cb.plainLookup b pick depth c = some r) :
    cb.plainLookup b pick (depth + 1) c = some r := by
  induction depth generalizing c r with
  | zero => cases h
  | succ depth ih =>
    cases hfind : cb.findClass? c with
    | none =>
      rw [plainLookup, hfind] at h ⊢
      exact h
    | some e =>
      rw [plainLookup_succ hfind] at h ⊢
      cases hpick : pick e with
      | some a =>
        rw [hpick] at h
        exact h
      | none =>
        rw [hpick] at h
        exact findSomeM?_mono (fun _ _ => ih) h

theorem plainLookup_mono {m n : Nat} (hmn : m ≤ n) {c : ClassName} {r : Option α}
    (h : cb.plainLookup b pick m c = some r) : cb.plainLookup b pick n c = some r := by
  induction hmn with
  | refl => exact h
  | step _ ih => exact plainLookup_step ih

/-! ## What the recursion comes to -/

theorem Leads.unique {c : ClassName} {r s : Option α} (hr : cb.Leads b pick c r)
    (hs : cb.Leads b pick c s) : r = s := by
  obtain ⟨m, hm⟩ := hr
  obtain ⟨n, hn⟩ := hs
  have hm' := plainLookup_mono (Nat.le_max_left m n) hm
  have hn' := plainLookup_mono (Nat.le_max_right m n) hn
  exact Option.some.inj (hm'.symm.trans hn')

theorem leads_unknown {c : ClassName} (hfind : cb.findClass? c = none) :
    cb.Leads b pick c none := by
  refine ⟨1, ?_⟩
  rw [plainLookup, hfind]

theorem leads_here {c : ClassName} {e : ClassEntry} {a : α} (hfind : cb.findClass? c = some e)
    (hpick : pick e = some a) : cb.Leads b pick c (some a) := by
  refine ⟨1, ?_⟩
  rw [plainLookup_succ hfind, hpick]
  rfl

theorem leads_below {c : ClassName} {e : ClassEntry} {r : Option α}
    (hfind : cb.findClass? c = some e) (hpick : pick e = none)
    (h : cb.LeadsAmong b pick (e.bases b) r) : cb.Leads b pick c r := by
  obtain ⟨depth, hdepth⟩ := h
  refine ⟨depth + 1, ?_⟩
  rw [plainLookup_succ hfind, hpick]
  exact hdepth

theorem leads_congr {c d : ClassName} (hkey : c.key = d.key) {r : Option α}
    (h : cb.Leads b pick c r) : cb.Leads b pick d r := by
  obtain ⟨depth, hdepth⟩ := h
  cases depth with
  | zero => cases hdepth
  | succ depth =>
    refine ⟨depth + 1, ?_⟩
    rw [plainLookup, ← findClass?_congr hkey]
    rwa [plainLookup] at hdepth

theorem leadsAmong_found {c : ClassName} {cs : List ClassName} {a : α}
    (h : cb.Leads b pick c (some a)) : cb.LeadsAmong b pick (c :: cs) (some a) := by
  obtain ⟨depth, hdepth⟩ := h
  refine ⟨depth, ?_⟩
  rw [List.findSomeM?_cons, hdepth]
  rfl

theorem leadsAmong_next {c : ClassName} {cs : List ClassName} {r : Option α}
    (h : cb.Leads b pick c none) (hcs : cb.LeadsAmong b pick cs r) :
    cb.LeadsAmong b pick (c :: cs) r := by
  obtain ⟨m, hm⟩ := h
  obtain ⟨n, hn⟩ := hcs
  refine ⟨max m n, ?_⟩
  rw [List.findSomeM?_cons, plainLookup_mono (Nat.le_max_left m n) hm]
  exact findSomeM?_mono (fun _ _ => plainLookup_mono (Nat.le_max_right m n)) hn

theorem leads_of_singleton {c : ClassName} {r : Option α} (h : cb.LeadsAmong b pick [c] r) :
    cb.Leads b pick c r := by
  obtain ⟨depth, hdepth⟩ := h
  refine ⟨depth, ?_⟩
  rw [← hdepth, List.findSomeM?_cons]
  cases cb.plainLookup b pick depth c with
  | none => rfl
  | some found => cases found <;> rfl

/-! ## Hierarchies without cycles -/

theorem AcyclicFrom.below {c d : ClassName} {e : ClassEntry} (h : cb.AcyclicFrom b c)
    (hfind : cb.findClass? c = some e) (hd : d ∈ e.bases b) : cb.AcyclicFrom b d :=
  fun f hf => h f (reaches_below hfind hd hf)

/-- The bases of a class do not lead back to it. -/
theorem AcyclicFrom.ne {c d : ClassName} {e f : ClassEntry} (h : cb.AcyclicFrom b c)
    (hfind : cb.findClass? c = some e) (hd : d ∈ e.bases b) (hf : cb.Reaches b d f) :
    f.name.key ≠ c.key := by
  intro hkey
  have hself : f = e := by
    have hindexed := hf.indexed
    rw [findClass?_congr hkey, hfind] at hindexed
    exact (Option.some.inj hindexed).symm
  subst hself
  obtain ⟨g, hg, hpath⟩ := hf
  exact h f (reaches_self hfind) (.head' ⟨d, ClassEntry.mem_bases_iff.mp hd, hg⟩ hpath)

theorem Extends.withInterfaces {e f : ClassEntry} (h : cb.Extends b e f) : cb.Extends true e f := by
  obtain ⟨d, hrefers, hfind⟩ := h
  exact ⟨d, hrefers.withInterfaces, hfind⟩

/-- Leaving the interfaces out makes no cycle. -/
theorem AcyclicFrom.of_all {c : ClassName} (h : cb.AcyclicFrom true c) : cb.AcyclicFrom b c := by
  rintro e ⟨root, hfind, hpath⟩ hcycle
  refine h e ⟨root, hfind, ?_⟩ ?_
  · exact Relation.ReflTransGen.mono (fun _ _ => Extends.withInterfaces) _ _ hpath
  · exact Relation.TransGen.mono (fun _ _ => Extends.withInterfaces) _ _ hcycle

/-- A number that falls along every reference rules cycles out. -/
theorem acyclicFrom_of_rank {c : ClassName} (rank : ClassEntry → Nat)
    (h : ∀ e ∈ cb.classes.items, ∀ d ∈ e.bases b, ∀ f ∈ cb.findClass? d, rank f < rank e) :
    cb.AcyclicFrom b c := by
  have hstep : ∀ e f, cb.findClass? e.name = some e → cb.Extends b e f → rank f < rank e := by
    rintro e f he ⟨d, hd, hf⟩
    exact h e (Index.mem_of_find? he) d (ClassEntry.mem_bases_iff.mpr hd) f hf
  intro e hreach hcycle
  have hfall : ∀ f, Relation.TransGen (cb.Extends b) e f → rank f < rank e := by
    intro f hpath
    induction hpath with
    | single hf => exact hstep e _ hreach.indexed hf
    | tail hpath hf ih =>
      obtain ⟨root, hroot, hto⟩ := hreach
      have hmid := Reaches.indexed ⟨root, hroot, hto.trans hpath.to_reflTransGen⟩
      exact Nat.lt_trans (hstep _ _ hmid hf) ih
  exact Nat.lt_irrefl _ (hfall e hcycle)

/-! ## The two lookups -/

/-- Nothing is found from the class. -/
def Fruitless (cb : CodeBase) (b : Bool) (pick : ClassEntry → Option α) (f : ClassEntry) : Prop :=
  cb.Leads b pick f.name none

/-- Nothing is found from the classes that were met between two moments. -/
def Searched (cb : CodeBase) (b : Bool) (pick : ClassEntry → Option α) (met after : List String) :
    Prop :=
  ∀ f, cb.findClass? f.name = some f → f.name.key ∈ after →
    f.name.key ∈ met ∨ cb.Fruitless b pick f

/-- Nothing is found from the classes met so far that the pending ones lead to again. -/
def Settled (cb : CodeBase) (b : Bool) (pick : ClassEntry → Option α) (met : List String)
    (cs : List ClassName) : Prop :=
  ∀ c ∈ cs, ∀ f, cb.Reaches b c f → f.name.key ∈ met → cb.Fruitless b pick f

theorem searched_cons {met : List String} {c : ClassName}
    (h : cb.Leads b pick c none) : cb.Searched b pick met (c.key :: met) := by
  intro f _ hk
  rcases List.mem_cons.mp hk with hk | hk
  · exact .inr (leads_congr hk.symm h)
  · exact .inl hk

theorem Searched.trans {met mid after : List String} (h₁ : cb.Searched b pick met mid)
    (h₂ : cb.Searched b pick mid after) : cb.Searched b pick met after := by
  intro f hf hk
  rcases h₂ f hf hk with hk | hnone
  · exact h₁ f hf hk
  · exact .inr hnone

theorem Settled.tail {met : List String} {c : ClassName} {cs : List ClassName}
    (h : cb.Settled b pick met (c :: cs)) : cb.Settled b pick met cs :=
  fun d hd => h d (List.mem_cons_of_mem _ hd)

theorem Settled.later {met mid : List String} {cs : List ClassName}
    (h : cb.Settled b pick met cs) (hsearched : cb.Searched b pick met mid) :
    cb.Settled b pick mid cs := by
  intro c hc f hf hk
  rcases hsearched f hf.indexed hk with hk | hnone
  · exact h c hc f hf hk
  · exact hnone

/-- The class that is entered has been met from then on, but its bases do not lead back to it. -/
theorem Settled.below {met : List String} {c : ClassName} {cs : List ClassName} {e : ClassEntry}
    (h : cb.Settled b pick met (c :: cs)) (hacyclic : cb.AcyclicFrom b c)
    (hfind : cb.findClass? c = some e) : cb.Settled b pick (c.key :: met) (e.bases b) := by
  intro d hd f hf hk
  rcases List.mem_cons.mp hk with hk | hk
  · exact absurd hk (hacyclic.ne hfind hd hf)
  · exact h c List.mem_cons_self f (reaches_below hfind hd hf) hk

/-- A class that was met and is pending again leads nowhere. -/
theorem Settled.again {met : List String} {c : ClassName} {cs : List ClassName}
    (h : cb.Settled b pick met (c :: cs)) (hmet : c.key ∈ met) : cb.Leads b pick c none := by
  cases hfind : cb.findClass? c with
  | none => exact leads_unknown hfind
  | some e =>
    have hkey := key_of_findClass? hfind
    have hmet' : e.name.key ∈ met := by rwa [hkey]
    exact leads_congr hkey (h c List.mem_cons_self e (reaches_self hfind) hmet')

/-- By induction on the run. When it finds nothing, nothing is found from the classes it met. -/
theorem Collects.leadsAmong {met after : List String} {cs : List ClassName} {es : List ClassEntry}
    (h : Collects cb b met cs after es) (hacyclic : ∀ c ∈ cs, cb.AcyclicFrom b c)
    (hsettled : cb.Settled b pick met cs) :
    cb.LeadsAmong b pick cs (es.findSome? pick) ∧
      (es.findSome? pick = none → cb.Searched b pick met after) := by
  induction h with
  | done => exact ⟨⟨0, rfl⟩, fun _ f _ hf => .inl hf⟩
  | again hmet _ ih =>
    obtain ⟨hbeside, hafter⟩ :=
      ih (fun d hd => hacyclic d (List.mem_cons_of_mem _ hd)) hsettled.tail
    exact ⟨leadsAmong_next (hsettled.again hmet) hbeside, hafter⟩
  | @unknown met _ c _ _ _ hfind _ ih =>
    have hlook : cb.Leads b pick c none := leads_unknown hfind
    have hsearched : cb.Searched b pick met (c.key :: met) := searched_cons hlook
    obtain ⟨hbeside, hafter⟩ := ih (fun d hd => hacyclic d (List.mem_cons_of_mem _ hd))
      (hsettled.tail.later hsearched)
    exact ⟨leadsAmong_next hlook hbeside, fun hnone => hsearched.trans (hafter hnone)⟩
  | @enter met mid _ c cs e es fs _ hfind _ _ ihBelow ihBeside =>
    have hc : cb.AcyclicFrom b c := hacyclic c List.mem_cons_self
    obtain ⟨hbelow, hmid⟩ := ihBelow (fun d hd => hc.below hfind hd) (hsettled.below hc hfind)
    rw [List.cons_append, List.findSome?_cons, List.findSome?_append]
    cases hpick : pick e with
    | some a => exact ⟨leadsAmong_found (leads_here hfind hpick), nofun⟩
    | none =>
      have hlook : cb.Leads b pick c (es.findSome? pick) := leads_below hfind hpick hbelow
      cases hes : es.findSome? pick with
      | some a =>
        rw [hes] at hlook
        exact ⟨leadsAmong_found hlook, nofun⟩
      | none =>
        rw [hes] at hlook
        -- Everything that has been met by now is as fruitless as `c` itself.
        have hsearched : cb.Searched b pick met mid := (searched_cons hlook).trans (hmid hes)
        obtain ⟨hbeside, hafter⟩ := ihBeside
          (fun d hd => hacyclic d (List.mem_cons_of_mem _ hd)) (hsettled.tail.later hsearched)
        exact ⟨leadsAmong_next hlook hbeside, fun hnone => hsearched.trans (hafter hnone)⟩

theorem leads_findMember? {c : ClassName} (h : cb.AcyclicFrom b c) :
    cb.Leads b pick c (cb.findMember? b c pick) := by
  obtain ⟨after, hrun⟩ := collects_lineage cb b c
  have hstart : ∀ d ∈ [c], cb.AcyclicFrom b d := List.forall_mem_singleton.mpr h
  exact leads_of_singleton (hrun.leadsAmong hstart fun _ _ _ _ hk => nomatch hk).1

theorem leads_iff {c : ClassName} (h : cb.AcyclicFrom b c) (r : Option α) :
    cb.Leads b pick c r ↔ r = cb.findMember? b c pick := by
  constructor
  · intro hr
    exact hr.unique (leads_findMember? h)
  · rintro rfl
    exact leads_findMember? h

/-- Where no reference leads back, the plain recursion ends for every class, and it comes to what
the guarded walk finds, however deep it is followed. So it does for methods, constants and
properties. -/
theorem findMember?_eq_plainLookup {c : ClassName} (h : cb.AcyclicFrom true c) :
    (∀ (withInterfaces : Bool) (α : Type) (pick : ClassEntry → Option α) (r : Option α),
      (∃ depth, cb.plainLookup withInterfaces pick depth c = some r) ↔
        r = cb.findMember? withInterfaces c pick) ∧
    (∀ name r, (∃ depth, cb.plainLookup true (·.findMethod? name) depth c = some r) ↔
      r = cb.findMethod? c name) ∧
    (∀ name r, (∃ depth, cb.plainLookup true (·.findConstant? name) depth c = some r) ↔
      r = cb.findClassConstant? c name) ∧
    ∀ name isStatic r,
      (∃ depth, cb.plainLookup false (·.findProperty? name isStatic) depth c = some r) ↔
        r = cb.findProperty? c name isStatic := by
  refine ⟨?_, ?_, ?_, ?_⟩
  · intro withInterfaces α pick r
    exact leads_iff h.of_all r
  · intro name r
    exact leads_iff h r
  · intro name r
    exact leads_iff h r
  · intro name isStatic r
    exact leads_iff h.of_all r

namespace Shadowed

def letter : ClassEntry :=
  sampleEntry "Letter" .ordinary 0 (some "Document") ["Printable"] ["Signed"] []

def signed : ClassEntry := sampleEntry "Signed" .trait 10 none [] [] ["title"]

def document : ClassEntry := sampleEntry "Document" .ordinary 20 none [] [] ["title", "pages"]

def printable : ClassEntry :=
  sampleEntry "Printable" .interface 30 none [] [] ["title", "pages", "print"]

/-- The classes are listed against the order of the search. -/
def codeBase : CodeBase :=
  ofSnapshot ⟨[printable, document, signed, letter], [], []⟩

end Shadowed

open Shadowed in
/-- The method of the trait comes before that of the parent, and this before that of the
interface. -/
theorem findMethod?_shadowed :
    codeBase.AcyclicFrom true letter.name ∧
    (codeBase.findMethod? letter.name "title").map (·.name.text) = some "\\Signed::title" ∧
    (codeBase.findMethod? letter.name "pages").map (·.name.text) = some "\\Document::pages" ∧
    (codeBase.findMethod? letter.name "print").map (·.name.text) = some "\\Printable::print" ∧
    codeBase.findMethod? letter.name "sign" = none := by
  have hacyclic : codeBase.AcyclicFrom true letter.name :=
    acyclicFrom_of_rank (fun e => 30 - e.line.toNat) (by decide +kernel)
  obtain ⟨_, hmethods, _⟩ := findMember?_eq_plainLookup hacyclic
  have htitle : signed.findMethod? "title" = codeBase.findMethod? letter.name "title" :=
    (hmethods "title" _).mp ⟨2, by decide +kernel⟩
  have hpages : document.findMethod? "pages" = codeBase.findMethod? letter.name "pages" :=
    (hmethods "pages" _).mp ⟨2, by decide +kernel⟩
  have hprint : printable.findMethod? "print" = codeBase.findMethod? letter.name "print" :=
    (hmethods "print" _).mp ⟨2, by decide +kernel⟩
  have hsign : none = codeBase.findMethod? letter.name "sign" :=
    (hmethods "sign" _).mp ⟨2, by decide +kernel⟩
  rw [← htitle, ← hpages, ← hprint, ← hsign]
  exact ⟨hacyclic, by decide +kernel, by decide +kernel, by decide +kernel, rfl⟩

end CodeBase

end GotoDefinition
