import GotoDefinition.Proofs.UnionText.Reading

/-!
# GotoDefinition.Proofs.UnionText.Merging

Joining union texts by `|` is merging the unions.

Being the same type is an equivalence, so whether a type is dropped depends on what is there in some
spelling and not on how it came there. Types that are added one by one and types that were collected
in a union of their own first are therefore dropped in the same places.

* `has_addAll` — what a union has after additions.
* `merge_ofList` — collecting types before they are added makes no difference.
* `ofText_join` — the text `s|t` is read as the union of `s` merged with that of `t`.
-/

namespace GotoDefinition

theorem Ty.same_trans {r s t : Ty} (hrs : r.same s = true) (hst : s.same t = true) :
    r.same t = true := by
  cases r <;> cases s <;> simp only [same, Bool.false_eq_true] at hrs <;> cases t <;>
    simp only [same, Bool.false_eq_true] at hst ⊢
  · rw [beq_iff_eq] at hrs hst ⊢
    exact hrs.trans hst
  · rw [Name.same_iff] at hrs hst ⊢
    exact hrs.trans hst
  · rw [Name.same_iff] at hrs hst ⊢
    exact hrs.trans hst

namespace UnionType

/-! ## Membership -/

/-- A union has a type in every spelling of it. -/
theorem has_of_same {u : UnionType} {s t : Ty} (hst : s.same t = true) (ht : u.has t = true) :
    u.has s = true := by
  obtain ⟨r, hr, htr⟩ := has_iff.mp ht
  exact has_iff.mpr ⟨r, hr, Ty.same_trans hst htr⟩

theorem has_add (u : UnionType) (s t : Ty) : (u.add t).has s = (u.has s || s.same t) := by
  rw [has, types_add]
  split
  · rename_i ht
    rw [Bool.eq_iff_iff, Bool.or_eq_true]
    refine ⟨.inl, ?_⟩
    rintro (hs | hst)
    · exact hs
    · exact has_of_same hst ht
  · rw [List.any_append, List.any_cons, List.any_nil, Bool.or_false, has]

theorem has_addAll (u : UnionType) (ts : List Ty) (s : Ty) :
    (u.addAll ts).has s = (u.has s || ts.any s.same) := by
  induction ts generalizing u with
  | nil => rw [List.any_nil, Bool.or_false, addAll, List.foldl_nil]
  | cons t ts ih =>
    have hrest : (u.addAll (t :: ts)).has s = ((u.add t).addAll ts).has s := rfl
    rw [hrest, ih, has_add, List.any_cons, Bool.or_assoc]

theorem has_merge (u v : UnionType) (s : Ty) : (u.merge v).has s = (u.has s || v.has s) :=
  has_addAll u v.types s

/-! ## Merging what was collected -/

theorem add_of_has {u : UnionType} {t : Ty} (h : u.has t = true) : u.add t = u := by
  apply ext_types
  rw [types_add, if_pos h]

/-- A type that is added before merging could be added behind it. -/
theorem merge_add (u v : UnionType) (t : Ty) : u.merge (v.add t) = (u.merge v).add t := by
  rw [merge, types_add]
  split
  · rename_i ht
    have hmerged : (u.merge v).has t = true := by rw [has_merge, ht, Bool.or_true]
    rw [add_of_has hmerged, merge]
  · rw [addAll_append]
    rfl

theorem merge_addAll (u v : UnionType) (ts : List Ty) :
    u.merge (v.addAll ts) = (u.merge v).addAll ts := by
  induction ts generalizing v with
  | nil => rfl
  | cons t ts ih =>
    have hrest : u.merge (v.addAll (t :: ts)) = u.merge ((v.add t).addAll ts) := rfl
    rw [hrest, ih, merge_add]
    rfl

theorem merge_ofList (u : UnionType) (ts : List Ty) : u.merge (ofList ts) = u.addAll ts :=
  merge_addAll u empty ts

/-! ## Joined texts -/

theorem splitOn_join (s t : String) :
    (s ++ "|" ++ t).toList.splitOn '|' = s.toList.splitOn '|' ++ t.toList.splitOn '|' := by
  have hjoined : (s ++ "|" ++ t).toList = s.toList ++ '|' :: t.toList := by
    rw [String.toList_append, String.toList_append, List.append_assoc]
    rfl
  rw [hjoined, List.splitOn_append_cons_self]

/-- A text with a `|` is not blank. -/
theorem not_blank_join (s t : String) : ¬Text.Blank (s ++ "|" ++ t).toList := by
  intro h
  have hbar : '|' ∈ (s ++ "|" ++ t).toList := by simp
  exact absurd (h '|' hbar) (by decide)

/-- Two texts joined by `|` are read one after the other, and what they are read as is merged. -/
theorem ofText_join_eq {s t : String} (hs : ¬Text.Blank s.toList) (ht : ¬Text.Blank t.toList) :
    ofText (s ++ "|" ++ t) =
      match ofText s with
      | .error e => .error e
      | .ok u => (ofText t).map u.merge := by
  rw [ofText_of_not_blank (not_blank_join s t), splitOn_join, List.map_append,
    allOrFirstError_append, ofText_of_not_blank hs, ofText_of_not_blank ht]
  cases allOrFirstError ((s.toList.splitOn '|').map readAlternative) with
  | error e => rfl
  | ok sss =>
    cases allOrFirstError ((t.toList.splitOn '|').map readAlternative) with
    | error e => rfl
    | ok tss =>
      have htypes :
          ofList (sss ++ tss).flatten = (ofList sss.flatten).merge (ofList tss.flatten) := by
        rw [merge_ofList, List.flatten_append]
        exact addAll_append empty sss.flatten tss.flatten
      exact congrArg Except.ok htypes

/-- Two texts that are not blank are accepted with a `|` between them if and only if both are
accepted. Then what they are read as together is the union of the first merged with the union of
the second, in order and spelling. If they are not accepted, the failure is that of the first text,
or that of the second if the first is accepted. -/
theorem ofText_join {s t : String} (hs : ¬Text.Blank s.toList) (ht : ¬Text.Blank t.toList) :
    ((∃ w, ofText (s ++ "|" ++ t) = .ok w) ↔ (∃ u, ofText s = .ok u) ∧ ∃ v, ofText t = .ok v) ∧
    (∀ u v, ofText s = .ok u → ofText t = .ok v → ofText (s ++ "|" ++ t) = .ok (u.merge v)) ∧
    (∀ e, ofText s = .error e → ofText (s ++ "|" ++ t) = .error e) ∧
    ∀ u e, ofText s = .ok u → ofText t = .error e → ofText (s ++ "|" ++ t) = .error e := by
  rw [ofText_join_eq hs ht]
  cases ofText s with
  | error e => simp
  | ok u => cases ofText t <;> simp [Except.map]

namespace Posts

/-- What `?Post|int` is read as. -/
def first : UnionType :=
  ofList [.instanceOf (Name.ofText "Post"), .native .null, .native .int]

/-- What `post|?string` is read as. -/
def second : UnionType :=
  ofList [.instanceOf (Name.ofText "post"), .native .string, .native .null]

end Posts

open Posts in
/-- Of the second text only `string` is new: its class is there in another spelling, and its `null`
came with a class of the first. -/
theorem ofText_join_posts :
    ¬Text.Blank "?Post|int".toList ∧ ¬Text.Blank "post|?string".toList ∧
    ofText "?Post|int" = .ok first ∧ ofText "post|?string" = .ok second ∧
    ofText "?Post|int|post|?string" = .ok (first.merge second) ∧
    (first.merge second).text = "\\Post|null|int|string" ∧
    ofText "Closure()|int" = .error ⟨"Closure()"⟩ ∧
    ofText "?Post|int|Closure()|int" = .error ⟨"Closure()"⟩ := by
  have hs : ¬Text.Blank "?Post|int".toList := by decide
  have ht : ¬Text.Blank "post|?string".toList := by decide
  have hfails : ¬Text.Blank "Closure()|int".toList := by decide
  have hfirst : ofText "?Post|int" = .ok first := by rfl
  have hsecond : ofText "post|?string" = .ok second := by rfl
  have herror : ofText "Closure()|int" = .error ⟨"Closure()"⟩ := by rfl
  exact ⟨hs, ht, hfirst, hsecond, (ofText_join hs ht).2.1 first second hfirst hsecond,
    by decide +kernel, herror, (ofText_join hs hfails).2.2.2 first _ hfirst herror⟩

end UnionType

end GotoDefinition
