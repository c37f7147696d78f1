import TextShell.Program.Element

/-!
# Wrapping does not matter

A tree that is handed over as data may have anything around its nodes: lists in lists,
nothing at all, an `ast` field, mappings without a tag, mappings under a tag that is not
known.  `Document.unwrapped` is the same tree without all this.  Its top level and every
`children` field is one flat list of the nodes that were found there, and a node is
changed nowhere else.

`nodes` is written over the fields of a mapping, in the order in which the wrappers are
told apart, and not over `Document.role`; that the two see the same wrappers is part of
what is proved.  A mapping whose tag cannot be looked up is no wrapper either.  It ends
the search for nodes, so it stays in its place as a node does.

What is no node is read as the list of some of the documents it holds, whatever it is
(`read_as_list`).  The induction that follows, `unwrap_induction`, has one case for this
and one for a node.

## Main results

* `ofItems_nodes` — the elements of a tree are those of its nodes, and what ends the
  search for them is the same.
* `bare_unwrapped`, `unwrapped_of_bare` — no wrapper is left, and a tree without wrappers
  is left as it is.
* `wrapping_is_ignored` — a tree and the same tree without its wrappers are the same
  program, or fail with the same error.
-/

namespace TextShell

namespace Tag

theorem eq_name_of_ofName? {s : String} {tag : Tag} (h : ofName? s = some tag) :
    s = tag.name := by
  have hname := List.find?_some h
  exact (beq_iff_eq.1 hname).symm

theorem ofName?_name (tag : Tag) : ofName? tag.name = some tag := by
  cases tag <;> rfl

end Tag

namespace Document

/-! ## Trees without wrappers -/

/-- What stands for the tag is known, or it cannot be looked up. -/
def IsNode (d : Document) : Prop :=
  ∃ name, d.field? "tag" = some name ∧
    ((∃ tag : Tag, name = .text tag.name) ∨ name.keyFault?.isSome)

/-- `IsNode`, as a test. -/
def isNode (d : Document) : Bool :=
  ((d.field? "tag").bind Tag.ofDocument?).isSome || ((d.field? "tag").bind keyFault?).isSome

mutual

/-- The nodes of a tree in a flat list, each with a flat list of nodes for its children. -/
def nodes : Document → List Document
  | .list items => nodesOfItems items
  | .mapping entries =>
    let d := Document.mapping entries
    if d.isNode then [.mapping (flatChildren entries)]
    else if (d.field? "tag").isNone && (d.field? "ast").isSome then nodesAt "ast" entries
    else if (d.field? "children").isSome then nodesAt "children" entries
    else
      match d.field? "tag" with
      | none | some .null => nodesOfFields entries
      | some _ => []
  | _ => []

/-- The nodes of all items. -/
def nodesOfItems : List Document → List Document
  | [] => []
  | item :: rest => item.nodes ++ nodesOfItems rest

/-- The nodes in the first field of this name. -/
def nodesAt (name : String) : List (Document × Document) → List Document
  | [] => []
  | (key, held) :: rest =>
    if key.sameKey (.text name) then held.nodes else nodesAt name rest

/-- The nodes in all fields. -/
def nodesOfFields : List (Document × Document) → List Document
  | [] => []
  | (_, held) :: rest => held.nodes ++ nodesOfFields rest

/-- The entries, with the nodes of `children` in its place. -/
def flatChildren : List (Document × Document) → List (Document × Document)
  | [] => []
  | (key, held) :: rest =>
    if key.sameKey (.text "children") then (key, .list held.nodes) :: rest
    else (key, held) :: flatChildren rest

end

/-- The tree without its wrappers. -/
def unwrapped (d : Document) : Document := .list d.nodes

/-- A flat list of nodes, whose children are such lists again. -/
inductive Bare : Document → Prop
  | nil : Bare (.list [])
  | cons {entries : List (Document × Document)} {rest : List Document}
      (hnode : (mapping entries).IsNode)
      (hchildren : ∀ held, (mapping entries).field? "children" = some held → Bare held)
      (hrest : Bare (.list rest)) : Bare (.list (.mapping entries :: rest))

/-! ## Fields -/

theorem sameKey_text {key : Document} {name : String} (h : key.sameKey (.text name) = true) :
    key = .text name := by
  cases key <;> simp_all [sameKey, sameNumber, numericKey?]

theorem field?_cons (key held : Document) (rest : List (Document × Document)) (name : String) :
    (mapping ((key, held) :: rest)).field? name =
      if key.sameKey (.text name) then some held else (mapping rest).field? name := by
  by_cases h : key.sameKey (.text name) = true <;> simp [field?, h]

theorem mem_of_field? {entries : List (Document × Document)} {name : String} {held : Document}
    (h : (mapping entries).field? name = some held) : ∃ entry ∈ entries, entry.2 = held := by
  obtain ⟨entry, hfind, hheld⟩ := Option.map_eq_some_iff.1 h
  exact ⟨entry, List.mem_of_find?_eq_some hfind, hheld⟩

theorem nodesOfItems_eq (items : List Document) : nodesOfItems items = items.flatMap nodes := by
  induction items with
  | nil => rw [nodesOfItems, List.flatMap_nil]
  | cons item rest ih => rw [nodesOfItems, ih, List.flatMap_cons]

theorem nodesAt_eq (name : String) (entries : List (Document × Document)) :
    nodesAt name entries = ((mapping entries).field? name).toList.flatMap nodes := by
  induction entries with
  | nil => rw [nodesAt]; rfl
  | cons entry rest ih =>
    obtain ⟨key, held⟩ := entry
    rw [nodesAt, field?_cons]
    split
    · rw [Option.toList_some, List.flatMap_singleton]
    · exact ih

theorem nodesOfFields_eq (entries : List (Document × Document)) :
    nodesOfFields entries = (entries.map Prod.snd).flatMap nodes := by
  induction entries with
  | nil => rw [nodesOfFields, List.map_nil, List.flatMap_nil]
  | cons entry rest ih => rw [nodesOfFields, ih, List.map_cons, List.flatMap_cons]

theorem field?_flatChildren (entries : List (Document × Document)) :
    (mapping (flatChildren entries)).field? "children" =
      ((mapping entries).field? "children").map unwrapped := by
  induction entries with
  | nil => rw [flatChildren]; rfl
  | cons entry rest ih =>
    obtain ⟨key, held⟩ := entry
    rw [flatChildren, field?_cons]
    by_cases hkey : key.sameKey (.text "children") = true
    · rw [if_pos hkey, field?_cons, if_pos hkey, if_pos hkey, Option.map_some, unwrapped]
    · rw [if_neg hkey, field?_cons, if_neg hkey, if_neg hkey, ih]

theorem field?_flatChildren_of_ne {name : String} (hname : name ≠ "children")
    (entries : List (Document × Document)) :
    (mapping (flatChildren entries)).field? name = (mapping entries).field? name := by
  induction entries with
  | nil => rw [flatChildren]
  | cons entry rest ih =>
    obtain ⟨key, held⟩ := entry
    rw [flatChildren, field?_cons]
    by_cases hkey : key.sameKey (.text "children") = true
    · obtain rfl := sameKey_text hkey
      rw [if_pos hkey, field?_cons]
      simp [sameKey, hname.symm]
    · rw [if_neg hkey, field?_cons, ih]

end Document

/-! ## Elements of lists and fields -/

namespace Finding

theorem append_nothing (a : Finding) : a.append {} = a := by
  obtain ⟨elements, fault⟩ := a
  cases fault <;> simp [append]

theorem nothing_append (a : Finding) : append {} a = a := by
  simp [append]

theorem append_assoc (a b c : Finding) : (a.append b).append c = a.append (b.append c) := by
  by_cases ha : a.fault.isSome <;> by_cases hb : b.fault.isSome <;> simp [append, ha, hb]

end Finding

namespace Element

open Document

theorem ofItems_append (items others : List Document) :
    ofItems (items ++ others) = (ofItems items).append (ofItems others) := by
  induction items with
  | nil => rw [List.nil_append, ofItems, Finding.nothing_append]
  | cons item items ih => rw [List.cons_append, ofItems, ih, ofItems, Finding.append_assoc]

theorem ofItems_singleton (d : Document) : ofItems [d] = ofDocument d := by
  rw [ofItems, ofItems, Finding.append_nothing]

theorem ofField_eq (name : String) (entries : List (Document × Document)) :
    ofField name entries = ofItems ((mapping entries).field? name).toList := by
  induction entries with
  | nil => rw [ofField]; rfl
  | cons entry rest ih =>
    obtain ⟨key, held⟩ := entry
    rw [ofField, field?_cons]
    split
    · rw [Option.toList_some, ofItems_singleton]
    · exact ih

theorem ofFields_eq (entries : List (Document × Document)) :
    ofFields entries = ofItems (entries.map Prod.snd) := by
  induction entries with
  | nil => rw [ofFields]; rfl
  | cons entry rest ih => rw [ofFields, ih, List.map_cons, ofItems]

end Element

namespace Document

/-! ## Nodes and wrappers by the role of a mapping -/

theorem isNode_of_tag {d name : Document} (htag : d.field? "tag" = some name) :
    d.isNode = ((Tag.ofDocument? name).isSome || name.keyFault?.isSome) := by
  rw [isNode, htag, Option.bind_some, Option.bind_some]

theorem isNode_iff {d : Document} : d.isNode = true ↔ d.IsNode := by
  cases htag : d.field? "tag" with
  | none => simp [isNode, IsNode, htag]
  | some name =>
    have hknown : (Tag.ofDocument? name).isSome ↔ ∃ tag : Tag, name = .text tag.name := by
      constructor
      · intro h
        obtain ⟨tag, hof⟩ := Option.isSome_iff_exists.1 h
        cases name <;> simp only [Tag.ofDocument?, reduceCtorEq] at hof
        exact ⟨tag, congrArg _ (Tag.eq_name_of_ofName? hof)⟩
      · rintro ⟨tag, rfl⟩
        rw [Tag.ofDocument?, Tag.ofName?_name, Option.isSome_some]
    rw [isNode_of_tag htag, Bool.or_eq_true, hknown]
    simp [IsNode, htag]

theorem role_of_isNode {d : Document} (h : d.isNode = true) :
    (∃ tag text line col, d.role = .element tag text line col) ∨
      ∃ fault, d.role = .broken fault := by
  cases htag : d.field? "tag" with
  | none => simp [isNode, htag] at h
  | some name =>
    cases hfault : name.keyFault? with
    | some fault => exact .inr ⟨fault, by simp [role, htag, hfault]⟩
    | none =>
      rw [isNode_of_tag htag, hfault, Option.isSome_none, Bool.or_false] at h
      obtain ⟨tag, hknown⟩ := Option.isSome_iff_exists.1 h
      exact .inl ⟨tag, d.field? "text", (d.field? "line").getD .null, (d.field? "col").getD .null,
        by simp [role, htag, hfault, hknown]⟩

theorem nodes_of_isNode {entries : List (Document × Document)}
    (h : (mapping entries).isNode = true) :
    nodes (mapping entries) = [mapping (flatChildren entries)] := by
  simp [nodes, h]

/-- Where a mapping is no node, `nodes` goes on where its role says. -/
theorem nodes_of_not_isNode {entries : List (Document × Document)}
    (h : (mapping entries).isNode = false) :
    (∃ name, (mapping entries).role = .wrapper name ∧
      nodes (mapping entries) = nodesAt name entries) ∨
    ((mapping entries).role = .anonymous ∧ nodes (mapping entries) = nodesOfFields entries) ∨
    ((mapping entries).role = .leaf ∧ nodes (mapping entries) = []) := by
  -- Only a mapping that has no tag at all can be an `ast` wrapper; a tag that is nothing
  -- counts as a missing one for everything else.
  cases htag : (mapping entries).field? "tag" with
  | none =>
    by_cases hast : ((mapping entries).field? "ast").isSome
    · exact .inl ⟨"ast", by simp [role, htag, hast], by simp [nodes, h, htag, hast]⟩
    by_cases hchildren : ((mapping entries).field? "children").isSome
    · exact .inl ⟨"children", by simp [role, htag, hast, hchildren, keyFault?, Tag.ofDocument?],
        by simp [nodes, h, htag, hast, hchildren]⟩
    · exact .inr (.inl ⟨by simp [role, htag, hast, hchildren, keyFault?, Tag.ofDocument?],
        by simp [nodes, h, htag, hast, hchildren]⟩)
  | some name =>
    have hname := h
    rw [isNode_of_tag htag, Bool.or_eq_false_iff, Option.isSome_eq_false_iff,
      Option.isSome_eq_false_iff, Option.isNone_iff_eq_none, Option.isNone_iff_eq_none] at hname
    by_cases hchildren : ((mapping entries).field? "children").isSome
    · exact .inl ⟨"children", by simp [role, htag, hname, hchildren],
        by simp [nodes, h, htag, hchildren]⟩
    by_cases hnull : name = .null
    · subst hnull
      exact .inr (.inl ⟨by simp [role, htag, hname, hchildren],
        by simp [nodes, h, htag, hchildren]⟩)
    · exact .inr (.inr ⟨by simp [role, htag, hname, hchildren],
        by simp [nodes, h, htag, hchildren]⟩)

/-- **A wrapper is read as a list** of documents that stand in its fields. -/
theorem read_as_list {entries : List (Document × Document)}
    (h : (mapping entries).isNode = false) :
    ∃ inner : List Document, (∀ item ∈ inner, ∃ entry ∈ entries, entry.2 = item) ∧
      nodes (mapping entries) = inner.flatMap nodes ∧
      Element.ofDocument (mapping entries) = Element.ofItems inner := by
  rw [Element.ofDocument]
  rcases nodes_of_not_isNode h with ⟨name, hrole, hnodes⟩ | ⟨hrole, hnodes⟩ | ⟨hrole, hnodes⟩
  · refine ⟨((mapping entries).field? name).toList, fun item hitem => ?_, ?_, ?_⟩
    · exact mem_of_field? (Option.mem_toList.1 hitem)
    · rw [hnodes, nodesAt_eq]
    · rw [hrole, ← Element.ofField_eq]
  · refine ⟨entries.map Prod.snd, fun item hitem => List.mem_map.1 hitem, ?_, ?_⟩
    · rw [hnodes, nodesOfFields_eq]
    · rw [hrole, ← Element.ofFields_eq]
  · refine ⟨[], by simp, hnodes, ?_⟩
    rw [hrole, Element.ofItems]

/-- **Induction over trees.**  A node has its children below it; all else is as the list
of what is below it. -/
@[elab_as_elim]
theorem unwrap_induction {P : Document → Prop}
    (node : ∀ entries, (mapping entries).isNode = true →
      (∀ held, (mapping entries).field? "children" = some held → P held) → P (.mapping entries))
    (wrapper : ∀ d (inner : List Document), (∀ item ∈ inner, P item) →
      d.nodes = inner.flatMap nodes → Element.ofDocument d = Element.ofItems inner → P d)
    (d : Document) : P d := by
  -- On the size, since what a wrapper stands for need not be all of what it holds.
  induction hsize : sizeOf d using Nat.strongRecOn generalizing d with
  | _ n ih =>
    subst hsize
    cases d with
    | list items =>
      refine wrapper _ items (fun item hitem => ih (sizeOf item) ?_ item rfl) ?_ ?_
      · have hlt := List.sizeOf_lt_of_mem hitem
        rw [Document.list.sizeOf_spec]
        omega
      · rw [nodes, nodesOfItems_eq]
      · rw [Element.ofDocument]
    | mapping entries =>
      have hbelow : ∀ entry ∈ entries, P entry.2 := by
        intro entry hentry
        refine ih (sizeOf entry.2) ?_ entry.2 rfl
        have hlt := List.sizeOf_lt_of_mem hentry
        obtain ⟨key, held⟩ := entry
        simp only [Document.mapping.sizeOf_spec, Prod.mk.sizeOf_spec] at hlt ⊢
        omega
      cases hnode : (mapping entries).isNode with
      | true =>
        refine node entries hnode fun held hheld => ?_
        obtain ⟨entry, hentry, rfl⟩ := mem_of_field? hheld
        exact hbelow entry hentry
      | false =>
        obtain ⟨inner, hinner, hnodes, hread⟩ := read_as_list hnode
        refine wrapper _ inner (fun item hitem => ?_) hnodes hread
        obtain ⟨entry, hentry, rfl⟩ := hinner item hitem
        exact hbelow entry hentry
    | _ =>
      refine wrapper _ [] (by simp) ?_ ?_
      · simp [nodes]
      · simp [Element.ofDocument, Element.ofItems]

/-! ## A node keeps its role -/

theorem isNode_flatChildren (entries : List (Document × Document)) :
    (mapping (flatChildren entries)).isNode = (mapping entries).isNode := by
  rw [isNode, isNode, field?_flatChildren_of_ne (by decide)]

theorem role_flatChildren (entries : List (Document × Document)) :
    (mapping (flatChildren entries)).role = (mapping entries).role := by
  -- Of `children` the role only needs to know that it is there.
  simp only [role, field?_flatChildren, Option.isSome_map]
  simp only [ne_eq, String.reduceEq, not_false_eq_true, field?_flatChildren_of_ne]

end Document

namespace Element

open Document

/-- A node is read off its role and the elements in its children. -/
theorem ofDocument_congr_of_isNode {entries others : List (Document × Document)}
    (hnode : (mapping entries).isNode = true)
    (hrole : (mapping others).role = (mapping entries).role)
    (hinner : ofField "children" others = ofField "children" entries) :
    ofDocument (.mapping others) = ofDocument (.mapping entries) := by
  rw [ofDocument, ofDocument, hrole]
  rcases role_of_isNode hnode with ⟨tag, text, line, col, h⟩ | ⟨fault, h⟩
  · simp only [h, hinner]
  · simp only [h]

theorem ofItems_flatMap_nodes {items : List Document}
    (h : ∀ item ∈ items, ofItems item.nodes = ofDocument item) :
    ofItems (items.flatMap nodes) = ofItems items := by
  induction items with
  | nil => rfl
  | cons item rest ih =>
    rw [List.flatMap_cons, ofItems_append, h item List.mem_cons_self,
      ih fun other hother => h other (List.mem_cons_of_mem _ hother), ofItems]

/-- **The elements of a tree are those of its nodes.** -/
theorem ofItems_nodes (d : Document) : ofItems d.nodes = ofDocument d := by
  induction d using unwrap_induction with
  | node entries hnode ih =>
    rw [nodes_of_isNode hnode, ofItems_singleton]
    refine ofDocument_congr_of_isNode hnode (role_flatChildren entries) ?_
    rw [ofField_eq, ofField_eq, field?_flatChildren]
    cases hchildren : (mapping entries).field? "children" with
    | none => rfl
    | some held =>
      rw [Option.map_some, Option.toList_some, Option.toList_some, ofItems_singleton,
        ofItems_singleton, unwrapped, ofDocument, ih held hchildren]
  | wrapper d inner ih hnodes hread => rw [hnodes, hread, ofItems_flatMap_nodes ih]

end Element

/-! ## No wrapper is left -/

namespace Document

theorem Bare.append {items others : List Document} (h : Bare (.list items))
    (hothers : Bare (.list others)) : Bare (.list (items ++ others)) := by
  generalize hd : Document.list items = d at h
  induction h generalizing items with
  | nil =>
    cases hd
    exact hothers
  | cons hnode hchildren _ _ ih =>
    cases hd
    exact .cons hnode hchildren (ih rfl)

theorem Bare.flatMap_nodes {items : List Document}
    (h : ∀ item ∈ items, Bare item.unwrapped) : Bare (.list (items.flatMap nodes)) := by
  induction items with
  | nil => exact .nil
  | cons item rest ih =>
    rw [List.flatMap_cons]
    exact (h item List.mem_cons_self).append
      (ih fun other hother => h other (List.mem_cons_of_mem _ hother))

theorem bare_unwrapped (d : Document) : Bare d.unwrapped := by
  induction d using unwrap_induction with
  | node entries hnode ih =>
    rw [unwrapped, nodes_of_isNode hnode]
    refine .cons (isNode_iff.1 ((isNode_flatChildren entries).trans hnode)) ?_ .nil
    intro flat hflat
    rw [field?_flatChildren] at hflat
    obtain ⟨held, hheld, rfl⟩ := Option.map_eq_some_iff.1 hflat
    exact ih held hheld
  | wrapper d inner ih hnodes _ =>
    rw [unwrapped, hnodes]
    exact Bare.flatMap_nodes ih

theorem flatChildren_eq_self {entries : List (Document × Document)}
    (h : ∀ held, (mapping entries).field? "children" = some held → held.unwrapped = held) :
    flatChildren entries = entries := by
  induction entries with
  | nil => rw [flatChildren]
  | cons entry rest ih =>
    obtain ⟨key, held⟩ := entry
    rw [flatChildren]
    simp only [field?_cons] at h
    split at h
    · next hkey => rw [if_pos hkey, ← unwrapped, h held rfl]
    · next hkey => rw [if_neg hkey, ih h]

theorem unwrapped_of_bare {d : Document} (h : Bare d) : d.unwrapped = d := by
  induction h with
  | nil => rw [unwrapped, nodes, nodesOfItems]
  | cons hnode _ _ ih ihrest =>
    rw [unwrapped, nodes, nodesOfItems, ← nodes, nodes_of_isNode (isNode_iff.2 hnode),
      flatChildren_eq_self ih, List.singleton_append]
    exact congrArg _ (congrArg _ (Document.list.inj ihrest))

end Document

/-- **Wrapping does not matter.**  A tree and the same tree without its wrappers are the
same program, down to the regions and places of its nodes, or fail with the same error. -/
theorem ProgramOf.wrapping_is_ignored (t : Document) :
    ofDocument t.unwrapped = ofDocument t ∧ t.unwrapped.Bare ∧ (t.unwrapped = t ↔ t.Bare) := by
  refine ⟨?_, t.bare_unwrapped, fun h => h ▸ t.bare_unwrapped, Document.unwrapped_of_bare⟩
  have hfound : Element.ofDocument t.unwrapped = Element.ofDocument t := by
    rw [Document.unwrapped, Element.ofDocument, Element.ofItems_nodes]
  rw [ofDocument, hfound, ofDocument]

end TextShell
