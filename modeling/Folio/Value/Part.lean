-- SUMMARY: What is directly in a value, induction over it, and what holds at any depth.
import Folio.Value.Tree

/-!
# Parts of values

`parts` lists what is directly in a value: the elements of a collection, the keys and values
of a mapping, and the fields of a node. A reference has no parts, as what it is to is not in
it. All that is said of values by going into them says what the parts give
(`Value.induction`), and `Everywhere` is what holds of a value and of all in it.
-/

namespace Folio.Value

/-- The values that a value holds directly. -/
def parts : Value → List Value
  | .list items | .tuple items => items
  | .mapping entries => entries.flatMap fun entry => [entry.1, entry.2]
  | .chain items => items.toList
  | value =>
    match value.kind? with
    | some _ => value.fields.map Prod.snd
    | none => []

theorem parts_of_kind? {value : Value} {kind : Kind} (h : value.kind? = some kind) :
    value.parts = value.fields.map Prod.snd := by
  cases value with
  | node | looseText | looseElement => rfl
  | _ => cases h

theorem parts_fieldsWith {motive : Value → Prop} {tag : TagOf Value Value} {children : Value}
    (hown : ∀ field ∈ tag.ownFields, motive field.2) (hchildren : motive children) :
    ∀ part ∈ (tag.fieldsWith children).map Prod.snd, motive part := by
  rw [TagOf.fieldsWith, List.forall_mem_map]
  exact List.forall_mem_append.mpr ⟨hown, List.forall_mem_singleton.mpr hchildren⟩

/-- The property holds of the value and of all that is in it, at any depth. -/
inductive Everywhere (holds : Value → Prop) : Value → Prop
  | intro {value : Value} :
      holds value → (∀ part ∈ value.parts, Everywhere holds part) → Everywhere holds value

/-- What holds of the values that trees are made of holds everywhere in a tree. -/
theorem everywhere_node {holds : Value → Prop} (hint : ∀ n, holds (.int n))
    (htext : ∀ s, holds (.text s)) (hchain : ∀ items, holds (.chain items))
    (hnode : ∀ n, holds (.node n)) (node : Node) : Everywhere holds (.node node) := by
  have hleaf : ∀ value : Value, holds value → value.parts = [] → Everywhere holds value := by
    intro value h hparts
    exact .intro h (by simp [hparts])
  induction node using Node.induction with
  | text content =>
    exact .intro (hnode _) (List.forall_mem_singleton.mpr (hleaf _ (htext content) rfl))
  | element tag children ih =>
    refine .intro (hnode _) (parts_fieldsWith ?own (.intro (hchain _) ?children))
    case own =>
      cases tag with
      | header level => exact List.forall_mem_singleton.mpr (hleaf _ (hint level) rfl)
      | anchor target => exact List.forall_mem_singleton.mpr (hleaf _ (htext target) rfl)
      | body | div | para | bold | italic => exact List.forall_mem_nil _
    case children =>
      rw [parts, Chain.toList_map, List.forall_mem_map]
      exact ih

section

variable {motive : Value → Prop}
  (step : ∀ value, (∀ part ∈ value.parts, motive part) → motive value)

include step

theorem induction_of_everywhere {holds : Value → Prop} {value : Value} (h : Everywhere holds value) :
    motive value := by
  induction h with
  | intro _ _ ih => exact step _ ih

/-- A property of all values follows if a value has it whenever all its parts do. -/
@[elab_as_elim] theorem induction (value : Value) : motive value := by
  refine Value.rec (motive_1 := motive) (motive_2 := fun items => ∀ item ∈ items, motive item)
    (motive_3 := fun entries => ∀ part ∈ (Value.mapping entries).parts, motive part)
    (motive_4 := fun items => ∀ item ∈ items.toList, motive item)
    (motive_5 := fun tag => ∀ field ∈ tag.ownFields, motive field.2)
    (motive_6 := fun entry => motive entry.1 ∧ motive entry.2)
    ?null ?bool ?int ?decimal ?text ?list ?tuple ?mapping ?chain ?node ?looseText ?looseElement
    ?options ?builder ?collected ?stream ?nil ?cons ?noEntry ?entries ?empty ?link
    ?body ?div ?para ?header ?anchor ?bold ?italic ?entry value
  case null | bool | int | decimal | text | options | builder | collected | stream =>
    intros
    exact step _ (List.forall_mem_nil _)
  case list | tuple | mapping | chain =>
    intro items h
    exact step _ h
  case node =>
    intro node
    have hall : Everywhere (fun _ => True) (.node node) :=
      everywhere_node (fun _ => trivial) (fun _ => trivial) (fun _ => trivial) (fun _ => trivial) node
    exact induction_of_everywhere step hall
  case looseText =>
    intro content h
    exact step _ (List.forall_mem_singleton.mpr h)
  case looseElement =>
    intro tag children hown hchildren
    exact step _ (parts_fieldsWith hown (step (.chain children) hchildren))
  case nil | noEntry | empty | body | div | para | bold | italic => exact List.forall_mem_nil _
  case cons =>
    intro first rest hfirst hrest
    exact List.forall_mem_cons.mpr ⟨hfirst, hrest⟩
  case entries =>
    rintro first rest ⟨hkey, hvalue⟩ hrest
    exact List.forall_mem_cons.mpr ⟨hkey, List.forall_mem_cons.mpr ⟨hvalue, hrest⟩⟩
  case link =>
    intro first rest hfirst hrest
    rw [Chain.toList_cons]
    exact List.forall_mem_cons.mpr ⟨hfirst, hrest⟩
  case header | anchor =>
    intro part h
    exact List.forall_mem_singleton.mpr h
  case entry =>
    intro key value hkey hvalue
    exact ⟨hkey, hvalue⟩

end

end Folio.Value
