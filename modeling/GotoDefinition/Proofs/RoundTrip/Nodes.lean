import GotoDefinition.Document.Node
import GotoDefinition.Proofs.RoundTrip.Structures
import GotoDefinition.Proofs.RoundTrip.Values

/-!
# GotoDefinition.Proofs.RoundTrip.Nodes

Nodes read back from what is written of them.

* `Node.held_toJson` — the fields of a written node, once kept, are read as the node.
* `Reader.node_toJson` — a written node is read exactly up to the limit of nesting.
* `Reader.document_node_compact` — so the text of a node, and of any node that was read from a text,
  is read as that node.
-/

namespace GotoDefinition

/-! ## Ranges -/

theorem Reader.uint32_natural (n : UInt32) : Reader.uint32 (.natural n.toNat) = .ok n := by
  rw [Reader.uint32, if_pos n.toNat_lt, UInt32.ofNat_toNat]

theorem Reader.position_toJson (p : Position) : Reader.position p.toJson = .ok p := by
  have hwritten : Fields.Written
      (.required "line" Reader.uint32 <| .required "character" Reader.uint32 .nil)
      (p.line, p.character, ()) [("line", .natural p.line.toNat),
        ("character", .natural p.character.toNat)] :=
    .cons (Reader.uint32_natural _) (.cons (Reader.uint32_natural _) .nil)
  rw [Reader.position, Position.toJson, Fields.read_written (by decide) hwritten]

theorem Reader.range_toJson (r : Range) : Reader.range r.toJson = .ok r := by
  have hwritten : Fields.Written
      (.required "start" Reader.position <| .required "end" Reader.position .nil)
      (r.start, r.stop, ()) [("start", r.start.toJson), ("end", r.stop.toJson)] :=
    .cons (Reader.position_toJson _) (.cons (Reader.position_toJson _) .nil)
  rw [Reader.range, Range.toJson, Fields.read_written (by decide) hwritten]

/-! ## Fields that have been kept -/

namespace NodeField

/-- The fields that are kept of an object whose keys denote texts. -/
def kept (fields : List (String × Json)) : List NodeField :=
  fields.map fun (k, v) => ⟨some k, v, Reader.heldNode v⟩

theorem heldFields_eq_kept (fields : List (String × Json)) :
    Reader.heldFields (fields.map fun (k, v) => (some k, v)) = kept fields := by
  induction fields with
  | nil => rfl
  | cons f fields ih => rw [List.map_cons, Reader.heldFields, ih, kept, kept, List.map_cons]

variable {fields : List (String × Json)} {key : String}

theorem filter_kept_of_not_mem (h : key ∉ fields.map Prod.fst) :
    (kept fields).filter (·.key == some key) = [] := by
  rw [List.filter_eq_nil_iff]
  intro f hf
  obtain ⟨entry, hentry, rfl⟩ := List.mem_map.mp hf
  have hne : entry.1 ≠ key := by
    rintro rfl
    exact h (List.mem_map_of_mem hentry)
  simpa using hne

theorem filter_kept (hnodup : (fields.map Prod.fst).Nodup) {v : Json} (h : (key, v) ∈ fields) :
    (kept fields).filter (·.key == some key) = [⟨some key, v, Reader.heldNode v⟩] := by
  induction fields with
  | nil => cases h
  | cons f fields ih =>
    obtain ⟨k, w⟩ := f
    obtain ⟨hfresh, hrest⟩ := List.nodup_cons.mp hnodup
    rw [kept, List.map_cons, ← kept, List.filter_cons]
    rcases List.mem_cons.mp h with h | h
    · cases h
      simp [filter_kept_of_not_mem hfresh]
    · have hkey : key ∈ fields.map Prod.fst := List.mem_map_of_mem (f := Prod.fst) h
      have hne : k ≠ key := by
        rintro rfl
        exact hfresh hkey
      simp [hne, ih hrest h]

theorem the_kept (hnodup : (fields.map Prod.fst).Nodup) {v : Json} (h : (key, v) ∈ fields) :
    the key (kept fields) = .ok ⟨some key, v, Reader.heldNode v⟩ := by
  rw [the, filter_kept hnodup h]

theorem theText_kept (hnodup : (fields.map Prod.fst).Nodup) {s : String}
    (h : (key, .str s) ∈ fields) : theText key (kept fields) = .ok s := by
  rw [theText, the_kept hnodup h]
  rfl

theorem theNode_kept (hnodup : (fields.map Prod.fst).Nodup) {n : Node}
    (hn : Reader.heldNode n.toJson = .ok n) (h : (key, n.toJson) ∈ fields) :
    theNode key (kept fields) = .ok n := by
  rw [theNode, the_kept hnodup h]
  exact hn

/-- A written name is a string or an object, and so it is read as what it was. -/
theorem theName_kept (hnodup : (fields.map Prod.fst).Nodup) {slot : NameSlot}
    (hslot : ∀ n, slot = .computed n → Reader.heldNode n.toJson = .ok n)
    (h : (key, slot.toJson) ∈ fields) : theName key (kept fields) = .ok slot := by
  rw [theName, the_kept hnodup h]
  cases slot with
  | literal name => rfl
  | computed n =>
    obtain ⟨s, r⟩ := n
    simp only [NameSlot.toJson, hslot _ rfl]
    simp only [Node.toJson, Json.obj]

theorem theRange_kept (hnodup : (fields.map Prod.fst).Nodup) {r : Range}
    (h : ("range", r.toJson) ∈ fields) : theRange (kept fields) = .ok r := by
  rw [theRange, filter_kept hnodup h]
  exact Reader.range_toJson r

theorem withReceiver_kept {make : Node → NameSlot → Shape} {receiver name : String} {n : Node}
    {slot : NameSlot} (hnodup : (fields.map Prod.fst).Nodup)
    (hn : Reader.heldNode n.toJson = .ok n)
    (hslot : ∀ n, slot = .computed n → Reader.heldNode n.toJson = .ok n)
    (hreceiver : (receiver, n.toJson) ∈ fields) (hname : (name, slot.toJson) ∈ fields) :
    withReceiver make receiver name (kept fields) = .ok (make n slot) := by
  rw [withReceiver, theNode_kept hnodup hn hreceiver]
  dsimp only
  rw [theName_kept hnodup hslot hname]

end NodeField

/-! ## Shapes -/

namespace Shape

def kind : Shape → ShapeKind
  | .classRef _ => .classRef
  | .property false _ _ => .instanceProperty
  | .property true _ _ => .staticProperty
  | .methodCall false _ _ => .instanceMethodCall
  | .methodCall true _ _ => .staticMethodCall
  | .call _ => .call
  | .classConstant _ _ => .classConstant
  | .constantRef _ => .constantRef
  | .variable _ => .variable
  | .other => .other

end Shape

theorem ShapeKind.ofWord_word (k : ShapeKind) : ShapeKind.ofWord k.word = k := by
  cases k <;> rfl

theorem ShapeKind.read_word (k : ShapeKind) : ShapeKind.read (.str k.word) = .ok k := by
  rw [Json.str, ShapeKind.read, ofWord_word]

namespace Node

/-- The fields that are written of a node. -/
def fields : Node → List (String × Json)
  | .mk s r => s.toFields ++ [("range", r.toJson)]

theorem toJson_eq_obj (n : Node) : n.toJson = .obj n.fields := by
  cases n
  rw [toJson, fields]

theorem kind_mem_fields (n : Node) : ("kind", .str n.shape.kind.word) ∈ n.fields := by
  obtain ⟨s, r⟩ := n
  cases s with
  | property isStatic => cases isStatic <;> simp [fields, shape, Shape.kind, Shape.toFields]
  | methodCall isStatic => cases isStatic <;> simp [fields, shape, Shape.kind, Shape.toFields]
  | _ => simp [fields, shape, Shape.kind, Shape.toFields]

theorem range_mem_fields (n : Node) : ("range", n.range.toJson) ∈ n.fields := by
  cases n
  simp [fields, range]

theorem nodup_fields (n : Node) : (n.fields.map Prod.fst).Nodup := by
  obtain ⟨s, r⟩ := n
  cases s with
  | property isStatic => cases isStatic <;> simp [fields, Shape.toFields]
  | methodCall isStatic => cases isStatic <;> simp [fields, Shape.toFields]
  | _ => simp [fields, Shape.toFields]

theorem heldNode_of_theShape {n : Node}
    (h : NodeField.theShape (NodeField.kept n.fields) n.shape.kind = .ok n.shape) :
    Reader.heldNode n.toJson = .ok n := by
  have hnodup := n.nodup_fields
  rw [toJson_eq_obj, Json.obj, Reader.heldNode, NodeField.heldFields_eq_kept, NodeField.assemble,
    NodeField.the_kept hnodup n.kind_mem_fields]
  simp only [ShapeKind.read_word, NodeField.theRange_kept hnodup n.range_mem_fields, h]
  cases n
  rfl

end Node

mutual

theorem Node.held_toJson : ∀ n : Node, Reader.heldNode n.toJson = .ok n
  | .mk s r => Node.heldNode_of_theShape (Shape.theShape_kept s r)

/-- Each shape finds the fields of its kind by their keys, and its parts are read by induction. -/
theorem Shape.theShape_kept : ∀ (s : Shape) (r : Range),
    NodeField.theShape (NodeField.kept (Node.mk s r).fields) s.kind = .ok s
  | .classRef name, r => by
    have hname :
        NodeField.theText "name" (NodeField.kept (Node.mk (.classRef name) r).fields) = .ok name :=
      NodeField.theText_kept (Node.nodup_fields _) (by simp [Node.fields, Shape.toFields])
    rw [Shape.kind, NodeField.theShape, hname]
    rfl
  | .property false receiver name, r =>
    NodeField.withReceiver_kept (Node.nodup_fields _) (Node.held_toJson receiver)
      (NameSlot.held_toJson name) (by simp [Node.fields, Shape.toFields])
      (by simp [Node.fields, Shape.toFields])
  | .property true receiver name, r =>
    NodeField.withReceiver_kept (Node.nodup_fields _) (Node.held_toJson receiver)
      (NameSlot.held_toJson name) (by simp [Node.fields, Shape.toFields])
      (by simp [Node.fields, Shape.toFields])
  | .methodCall false receiver name, r =>
    NodeField.withReceiver_kept (Node.nodup_fields _) (Node.held_toJson receiver)
      (NameSlot.held_toJson name) (by simp [Node.fields, Shape.toFields])
      (by simp [Node.fields, Shape.toFields])
  | .methodCall true receiver name, r =>
    NodeField.withReceiver_kept (Node.nodup_fields _) (Node.held_toJson receiver)
      (NameSlot.held_toJson name) (by simp [Node.fields, Shape.toFields])
      (by simp [Node.fields, Shape.toFields])
  | .call callee, r => by
    have hcallee :
        NodeField.theNode "callee" (NodeField.kept (Node.mk (.call callee) r).fields) =
          .ok callee :=
      NodeField.theNode_kept (Node.nodup_fields _) (Node.held_toJson callee)
        (by simp [Node.fields, Shape.toFields])
    rw [Shape.kind, NodeField.theShape, hcallee]
    rfl
  | .classConstant receiver name, r =>
    NodeField.withReceiver_kept (Node.nodup_fields _) (Node.held_toJson receiver)
      (NameSlot.held_toJson name) (by simp [Node.fields, Shape.toFields])
      (by simp [Node.fields, Shape.toFields])
  | .constantRef name, r => by
    have hname :
        NodeField.theText "name" (NodeField.kept (Node.mk (.constantRef name) r).fields) =
          .ok name :=
      NodeField.theText_kept (Node.nodup_fields _) (by simp [Node.fields, Shape.toFields])
    rw [Shape.kind, NodeField.theShape, hname]
    rfl
  | .variable name, r => by
    have hname :
        NodeField.theName "name" (NodeField.kept (Node.mk (.variable name) r).fields) = .ok name :=
      NodeField.theName_kept (Node.nodup_fields _) (NameSlot.held_toJson name)
        (by simp [Node.fields, Shape.toFields])
    rw [Shape.kind, NodeField.theShape, hname]
    rfl
  | .other, _ => rfl

theorem NameSlot.held_toJson : ∀ (slot : NameSlot) (n : Node), slot = .computed n →
    Reader.heldNode n.toJson = .ok n
  | .literal _, _, h => nomatch h
  | .computed m, _, rfl => Node.held_toJson m

end

/-! ## Texts -/

theorem Json.plain_uint32 (n : UInt32) : (Json.natural n.toNat).Plain :=
  .natural (Nat.lt_trans n.toNat_lt (by decide))

theorem Position.plain_toJson (p : Position) : p.toJson.Plain := by
  refine .obj fun f hf => ?_
  simp only [List.mem_cons, List.not_mem_nil, or_false] at hf
  rcases hf with rfl | rfl
  · exact Json.plain_uint32 _
  · exact Json.plain_uint32 _

theorem Range.plain_toJson (r : Range) : r.toJson.Plain := by
  refine .obj fun f hf => ?_
  simp only [List.mem_cons, List.not_mem_nil, or_false] at hf
  rcases hf with rfl | rfl
  · exact r.start.plain_toJson
  · exact r.stop.plain_toJson

theorem Node.plain_of_toFields {s : Shape} {r : Range} (h : ∀ f ∈ s.toFields, f.2.Plain) :
    (Node.mk s r).toJson.Plain := by
  rw [Node.toJson]
  refine .obj fun f hf => ?_
  rcases List.mem_append.mp hf with hf | hf
  · exact h f hf
  · cases List.mem_singleton.mp hf
    exact r.plain_toJson

mutual

theorem Node.plain_toJson : ∀ n : Node, n.toJson.Plain
  | .mk s _ => Node.plain_of_toFields (Shape.plain_toFields s)

theorem Shape.plain_toFields : ∀ (s : Shape), ∀ f ∈ s.toFields, f.2.Plain
  | .classRef name => by simp [Shape.toFields, Json.Plain.str]
  | .property false receiver name => by
    simp [Shape.toFields, Json.Plain.str, Node.plain_toJson receiver, NameSlot.plain_toJson name]
  | .property true receiver name => by
    simp [Shape.toFields, Json.Plain.str, Node.plain_toJson receiver, NameSlot.plain_toJson name]
  | .methodCall false receiver name => by
    simp [Shape.toFields, Json.Plain.str, Node.plain_toJson receiver, NameSlot.plain_toJson name]
  | .methodCall true receiver name => by
    simp [Shape.toFields, Json.Plain.str, Node.plain_toJson receiver, NameSlot.plain_toJson name]
  | .call callee => by simp [Shape.toFields, Json.Plain.str, Node.plain_toJson callee]
  | .classConstant receiver name => by
    simp [Shape.toFields, Json.Plain.str, Node.plain_toJson receiver, NameSlot.plain_toJson name]
  | .constantRef name => by simp [Shape.toFields, Json.Plain.str]
  | .variable name => by simp [Shape.toFields, Json.Plain.str, NameSlot.plain_toJson name]
  | .other => by simp [Shape.toFields, Json.Plain.str]

theorem NameSlot.plain_toJson : ∀ slot : NameSlot, slot.toJson.Plain
  | .literal name => .str name
  | .computed n => by
    rw [NameSlot.toJson]
    exact Node.plain_toJson n

end

theorem Range.depth_toJson (r : Range) : r.toJson.depth = 2 := rfl

theorem Shape.key_ne_range {s : Shape} {f : String × Json} (h : f ∈ s.toFields) :
    f.1 ≠ "range" := by
  have hnodup := (Node.mk s Range.zero).nodup_fields
  rw [Node.fields, List.map_append, List.nodup_append] at hnodup
  exact hnodup.2.2 _ (List.mem_map_of_mem h) _ List.mem_cons_self

/-- A written node is read exactly up to the limit of nesting. The range is not kept, but it is
never what takes a node beyond the limit. -/
theorem Reader.node_toJson (n : Node) {outside : Nat} (houtside : outside + 3 ≤ nestingLimit) :
    Reader.node outside n.toJson =
      if n.toJson.depth + outside ≤ nestingLimit then .ok n else .error .form := by
  obtain ⟨limit, hlimit⟩ : ∃ limit, nestingLimit = limit + 1 + outside ∧ 2 ≤ limit :=
    ⟨nestingLimit - 1 - outside, by omega, by omega⟩
  have hdepth : n.toJson.depth + outside ≤ nestingLimit ↔ ∀ f ∈ n.fields, f.2.depth ≤ limit := by
    rw [hlimit.1, Nat.add_le_add_iff_right, Node.toJson_eq_obj, Json.depth_obj_le]
  have hheld := Node.held_toJson n
  rw [Node.toJson_eq_obj, Json.obj] at hheld
  rw [if_congr hdepth rfl rfl, Node.toJson_eq_obj, Json.obj, Reader.node, hheld]
  refine if_congr ?_ rfl rfl
  rw [List.all_map, List.all_eq_true]
  refine forall₂_congr fun f hf => ?_
  have hrest : nestingLimit - 1 - outside = limit := by omega
  obtain ⟨s, r⟩ := n
  rcases List.mem_append.mp hf with hf | hf
  · -- only the key `range` is let through unseen
    have hne := Shape.key_ne_range hf
    simp [hrest, (Shape.plain_toFields s f hf).isHeld_iff]
  · cases List.mem_singleton.mp hf
    simp [Range.depth_toJson, hlimit.2]

/-- The text of a node is read as that node exactly up to the limit of nesting. So writing a node
that was read from any text and reading it again changes nothing. -/
theorem Reader.document_node_compact (n : Node) :
    (Reader.document (Reader.node 0) n.toJson.compact =
        if n.toJson.depth ≤ nestingLimit then .ok n else .error .form) ∧
      ∀ s, Reader.document (Reader.node 0) s = .ok n → n.toJson.depth ≤ nestingLimit →
        Reader.document (Reader.node 0) n.toJson.compact = Reader.document (Reader.node 0) s := by
  have hwritten : Reader.document (Reader.node 0) n.toJson.compact =
      if n.toJson.depth ≤ nestingLimit then .ok n else .error .form := by
    rw [Reader.document_compact _ n.plain_toJson, Reader.node_toJson n (by decide), Nat.add_zero]
  refine ⟨hwritten, fun s hs hdepth => ?_⟩
  rw [hwritten, if_pos hdepth, hs]

/-- `$a->{fn() => 1}()`, its fields in no order of the format, with a field and a kind that nodes do
not have and without ranges. -/
def Node.unorderedText : String :=
  "\x7b\"method\":\x7b\"arity\":[0],\"kind\":\"arrow_function\"\x7d," ++
    "\"object\":\x7b\"name\":\"a\",\"kind\":\"var_ref\"\x7d," ++
    "\"kind\":\"instance_method_call\"\x7d"

def Node.unordered : Node :=
  .methodCall (.variableNamed "$a") (.computed .other)

theorem Reader.document_node_compact_unordered :
    Reader.document (Reader.node 0) Node.unorderedText = .ok Node.unordered ∧
      Node.unordered.toJson.depth ≤ nestingLimit ∧
      Reader.document (Reader.node 0) Node.unordered.toJson.compact =
        Reader.document (Reader.node 0) Node.unorderedText := by
  have hread : Reader.document (Reader.node 0) Node.unorderedText = .ok Node.unordered := by
    decide +kernel
  have hdepth : Node.unordered.toJson.depth ≤ nestingLimit := by decide +kernel
  exact ⟨hread, hdepth, (Reader.document_node_compact Node.unordered).2 _ hread hdepth⟩

end GotoDefinition
