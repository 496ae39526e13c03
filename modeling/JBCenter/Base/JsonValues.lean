import JBCenter.Base.JsonTexts
import JBCenter.Base.Fallible
import Mathlib.Data.List.Perm.Basic
import Mathlib.Data.List.Sort

/-! Plain values of a program, the canonical text that a serialiser gives one (the members of objects in the order of their
names), and the values that such texts are read back as. -/
namespace JBCenter.JsonValues
open Utf16 (unit)
open JsonTokens JsonTexts
open List (append_assoc forall_mem_cons map_cons nil_append)
open Option (bind_eq_some_iff map_eq_some_iff map_some)

/-- A value as a serialiser meets it. The members of an object are those of its own names. -/
inductive Value (ν : Type) where
  | undefined
  | null
  | boolean (value : Bool)
  | number (value : ν)
  | bigint (value : Int)
  | text (value : CodeUnits)
  | array (items : List (Value ν))
  | object (members : List (CodeUnits × Value ν))

variable {ν : Type} {α β : Type*}

/-- A value by its parts: those of an array, and those of an object under their names. -/
@[elab_as_elim, induction_eliminator]
theorem Value.parts {P : Value ν → Prop} (undefined : P .undefined) (null : P .null) (boolean : ∀ value, P (.boolean value))
    (number : ∀ value, P (.number value)) (bigint : ∀ value, P (.bigint value)) (text : ∀ value, P (.text value))
    (array : ∀ items, (∀ item ∈ items, P item) → P (.array items))
    (object : ∀ members, (∀ member ∈ members, P member.2) → P (.object members)) (value : Value ν) : P value :=
  @Value.rec ν P (fun items => ∀ item ∈ items, P item) (fun members => ∀ member ∈ members, P member.2)
    (fun member => P member.2) undefined null boolean number bigint text array object nofun
    (fun _ _ first others => forall_mem_cons.mpr ⟨first, others⟩) nofun
    (fun _ _ first others => forall_mem_cons.mpr ⟨first, others⟩) (fun _ _ second => second) value

def Value.isUndefined : Value ν → Bool
  | .undefined => true
  | _ => false

mutual
/-- The names of each object within the value differ. -/
def Distinct : Value ν → Prop
  | .array items => DistinctItems items
  | .object members => (members.map Prod.fst).Nodup ∧ DistinctMembers members
  | _ => True

def DistinctItems : List (Value ν) → Prop
  | [] => True
  | item :: items => Distinct item ∧ DistinctItems items

def DistinctMembers : List (CodeUnits × Value ν) → Prop
  | [] => True
  | (_, value) :: members => Distinct value ∧ DistinctMembers members
end

@[simp] theorem distinct_array {items : List (Value ν)} : Distinct (.array items) ↔ ∀ item ∈ items, Distinct item := by
  rw [Distinct]
  induction items with
  | nil => exact iff_of_true trivial nofun
  | cons item items ih => rw [DistinctItems, ih, forall_mem_cons]

@[simp] theorem distinct_object {members : List (CodeUnits × Value ν)} :
    Distinct (.object members) ↔ (members.map Prod.fst).Nodup ∧ ∀ member ∈ members, Distinct member.2 := by
  rw [Distinct]
  refine and_congr_right' ?_
  induction members with
  | nil => exact iff_of_true trivial nofun
  | cons member members ih => rw [DistinctMembers, ih, forall_mem_cons]

section Names

/-- Strings are compared code unit by code unit. -/
def nameLe : CodeUnits → CodeUnits → Bool
  | [], _ => true
  | _ :: _, [] => false
  | u :: first, v :: second => u < v || (u == v && nameLe first second)

theorem nameLe_total (first second : CodeUnits) : nameLe first second = true ∨ nameLe second first = true := by
  induction first generalizing second with
  | nil => exact .inl rfl
  | cons u first ih =>
    cases second with
    | nil => exact .inr rfl
    | cons v second =>
      simp only [nameLe, Bool.or_eq_true, Bool.and_eq_true, decide_eq_true_eq, beq_iff_eq, UInt16.lt_iff_toNat_lt]
      obtain less | same | less := Nat.lt_trichotomy u.toNat v.toNat
      · exact .inl (.inl less)
      · have same := UInt16.toNat_inj.mp same
        exact (ih second).imp (fun le => .inr ⟨same, le⟩) (fun le => .inr ⟨same.symm, le⟩)
      · exact .inr (.inl less)

theorem nameLe_trans {first second third : CodeUnits} (before : nameLe first second = true) (after : nameLe second third = true) :
    nameLe first third = true := by
  induction first generalizing second third with
  | nil => rfl
  | cons u first ih =>
    cases second with
    | nil => cases before
    | cons v second =>
      cases third with
      | nil => cases after
      | cons w third =>
        simp only [nameLe, Bool.or_eq_true, Bool.and_eq_true, decide_eq_true_eq, beq_iff_eq,
          UInt16.lt_iff_toNat_lt] at before after ⊢
        obtain less | ⟨rfl, before⟩ := before
        · obtain less' | ⟨rfl, _⟩ := after
          · exact .inl (less.trans less')
          · exact .inl less
        · exact after.imp_right fun ⟨same, after⟩ => ⟨same, ih before after⟩

theorem nameLe_antisymm {first second : CodeUnits} (before : nameLe first second = true) (after : nameLe second first = true) :
    first = second := by
  induction first generalizing second with
  | nil =>
    cases second with
    | nil => rfl
    | cons => cases after
  | cons u first ih =>
    cases second with
    | nil => cases before
    | cons v second =>
      simp only [nameLe, Bool.or_eq_true, Bool.and_eq_true, decide_eq_true_eq, beq_iff_eq, UInt16.lt_iff_toNat_lt] at before after
      obtain less | ⟨rfl, before⟩ := before
      · obtain less' | ⟨rfl, _⟩ := after
        · exact absurd less' (Nat.lt_asymm less)
        · exact absurd less (Nat.lt_irrefl _)
      · obtain less | ⟨_, after⟩ := after
        · exact absurd less (Nat.lt_irrefl _)
        · rw [ih before after]

def Before (first second : CodeUnits × α) : Prop := nameLe first.1 second.1 = true

instance : DecidableRel (@Before α) := fun first second => inferInstanceAs (Decidable (nameLe first.1 second.1 = true))

instance : Std.Total (@Before α) := ⟨fun first second => nameLe_total first.1 second.1⟩

instance : IsTrans (CodeUnits × α) Before := ⟨fun _ _ _ => nameLe_trans⟩

/-- Members in the order of their names. -/
def byName (members : List (CodeUnits × α)) : List (CodeUnits × α) := members.insertionSort Before

theorem perm_byName (members : List (CodeUnits × α)) : (byName members).Perm members := List.perm_insertionSort _ members

/-- The order in which members of different names come does not matter. -/
theorem byName_congr {members others : List (CodeUnits × α)} (distinct : (members.map Prod.fst).Nodup)
    (same : members.Perm others) :
    byName members = byName others := by
  have perm := (perm_byName members).trans (same.trans (perm_byName others).symm)
  refine perm.eq_of_pairwise ?_ (List.pairwise_insertionSort _ _) (List.pairwise_insertionSort _ _)
  intro first second member member' before after
  have listed := (perm_byName members).mem_iff.mp member
  have listed' := (perm_byName members).mem_iff.mp (perm.mem_iff.mpr member')
  exact List.inj_on_of_nodup_map distinct listed listed' (nameLe_antisymm before after)

theorem byName_map (f : α → β) (members : List (CodeUnits × α)) :
    (byName members).map (fun member => (member.1, f member.2)) = byName (members.map fun member => (member.1, f member.2)) :=
  List.map_insertionSort _ _ _ _ fun _ _ _ _ => Iff.rfl

theorem nodup_byName {members : List (CodeUnits × α)} :
    ((byName members).map Prod.fst).Nodup ↔ (members.map Prod.fst).Nodup := ((perm_byName members).map Prod.fst).nodup_iff

end Names

/-- How a serialiser writes what JSON has no one form for: numbers, integers of any size, and members without a value. -/
structure Rules (ν : Type) where
  number : ν → Option CodeUnits
  bigint : Int → Option CodeUnits
  dropsUndefined : Bool

variable (rules : Rules ν)

mutual
/-- The canonical text of a value. -/
def encode : Value ν → Option CodeUnits
  | .undefined => none
  | .null => some nullText
  | .boolean value => some (if value then trueText else falseText)
  | .number value => rules.number value
  | .bigint value => (rules.bigint value).map quoted
  | .text value => some (quoted value)
  | .array items => (encodeItems items).map bracketed
  | .object members => (encodeMembers members).map (fun members => braced ((byName members).map memberText))

def encodeItems : List (Value ν) → Option (List CodeUnits)
  | [] => some []
  | item :: items => do
    let text ← encode item
    let texts ← encodeItems items
    return text :: texts

def encodeMembers : List (CodeUnits × Value ν) → Option (List (CodeUnits × CodeUnits))
  | [] => some []
  | (name, value) :: members =>
    if rules.dropsUndefined && value.isUndefined then encodeMembers members
    else do
      let text ← encode value
      let texts ← encodeMembers members
      return (name, text) :: texts
end

mutual
/-- The value that is written, its members in the order of their names. -/
def tree : Value ν → Option JsonValue
  | .undefined => none
  | .null => some (.scalar .null)
  | .boolean value => some (.scalar (.boolean value))
  | .number value => (rules.number value).map (fun numeral => .scalar (.number numeral))
  | .bigint value => (rules.bigint value).map (fun text => .scalar (.text text))
  | .text value => some (.scalar (.text value))
  | .array items => (treeItems items).map .array
  | .object members => (treeMembers members).map (fun members => .object (byName members))

def treeItems : List (Value ν) → Option (List JsonValue)
  | [] => some []
  | item :: items => do
    let value ← tree item
    let values ← treeItems items
    return value :: values

def treeMembers : List (CodeUnits × Value ν) → Option (List (CodeUnits × JsonValue))
  | [] => some []
  | (name, value) :: members =>
    if rules.dropsUndefined && value.isUndefined then treeMembers members
    else do
      let value ← tree value
      let values ← treeMembers members
      return (name, value) :: values
end

/-- A canonical text is the text of the value that is written. -/
theorem encode_eq (value : Value ν) : encode rules value = (tree rules value).map render := by
  induction value with
  | undefined | null | boolean | text => rfl
  | number value =>
    rw [encode, tree, Option.map_map]
    exact Option.map_id'.symm
  | bigint value =>
    rw [encode, tree, Option.map_map]
    rfl
  | array items ih =>
    have each : encodeItems rules items = (treeItems rules items).map (List.map render) := by
      induction items with
      | nil => rfl
      | cons item items rest =>
        obtain ⟨first, others⟩ := forall_mem_cons.mp ih
        rw [encodeItems, treeItems, first, rest others]
        cases tree rules item <;> cases treeItems rules items <;> rfl
    rw [encode, tree, each, Option.map_map, Option.map_map]
    exact congrArg (Option.map · _) (funext fun items => congrArg bracketed (renderItems_eq items).symm)
  | object members ih =>
    have each : encodeMembers rules members =
      (treeMembers rules members).map (List.map fun member => (member.1, render member.2)) := by
      induction members with
      | nil => rfl
      | cons member members rest =>
        obtain ⟨first, others⟩ := forall_mem_cons.mp ih
        rw [encodeMembers, treeMembers, first, rest others]
        split
        · rfl
        · cases tree rules member.2 <;> cases treeMembers rules members <;> rfl
    rw [encode, tree, each, Option.map_map, Option.map_map]
    refine congrArg (Option.map · _) (funext fun members => congrArg braced ?_)
    rw [← byName_map, List.map_map, renderMembers_eq]
    rfl

/-- The members that are written. -/
def kept (members : List (CodeUnits × Value ν)) : List (CodeUnits × Value ν) :=
  members.filter (fun member => !(rules.dropsUndefined && member.2.isUndefined))

variable {rules}

theorem treeItems_some {items : List (Value ν)} {values : List JsonValue} :
    treeItems rules items = some values ↔ List.Forall₂ (fun item value => tree rules item = some value) items values := by
  induction items generalizing values with
  | nil => simp only [treeItems, Option.some.injEq, List.forall₂_nil_left_iff, eq_comm]
  | cons item items ih =>
    simp only [treeItems, Option.bind_eq_bind, bind_eq_some_iff, Option.pure_def,
      Option.some.injEq, List.forall₂_cons_left_iff, ih]
    constructor
    · rintro ⟨value, found, values, each, rfl⟩
      exact ⟨value, values, found, each, rfl⟩
    · rintro ⟨value, values, found, each, rfl⟩
      exact ⟨value, found, values, each, rfl⟩

variable {text : CodeUnits} {written : JsonValue} {values : List (CodeUnits × JsonValue)}

theorem treeMembers_some {members : List (CodeUnits × Value ν)} :
    treeMembers rules members = some values ↔
      List.Forall₂ (fun member value => member.1 = value.1 ∧ tree rules member.2 = some value.2) (kept rules members) values := by
  induction members generalizing values with
  | nil => simp only [treeMembers, kept, List.filter_nil, Option.some.injEq, List.forall₂_nil_left_iff, eq_comm]
  | cons member members ih =>
    rw [treeMembers, kept, List.filter_cons, ← kept]
    cases dropped : rules.dropsUndefined && member.2.isUndefined with
    | true => exact ih
    | false =>
      simp only [Bool.false_eq_true, if_false, Bool.not_false, if_true, Option.bind_eq_bind, bind_eq_some_iff, Option.pure_def,
        Option.some.injEq, List.forall₂_cons_left_iff, ih]
      constructor
      · rintro ⟨value, found, values, each, rfl⟩
        exact ⟨(member.1, value), values, ⟨rfl, found⟩, each, rfl⟩
      · rintro ⟨⟨name, value⟩, values, ⟨rfl, found⟩, each, rfl⟩
        exact ⟨value, found, values, each, rfl⟩

theorem nodup_kept {members : List (CodeUnits × Value ν)} (distinct : (members.map Prod.fst).Nodup) :
    ((kept rules members).map Prod.fst).Nodup := distinct.sublist (List.filter_sublist.map _)

/-- The names that are written are those of the members that are. -/
theorem names_written {members : List (CodeUnits × Value ν)}
    (each : List.Forall₂ (fun member value => member.1 = value.1 ∧ tree rules member.2 = some value.2) members values) :
    values.map Prod.fst = members.map Prod.fst := by
  induction each with
  | nil => rfl
  | cons first _ ih => rw [map_cons, map_cons, ih, first.1]

/-- What is written by rules that leave nothing out is written the same by rules that write at least as much. -/
theorem encode_mono {rules' : Rules ν} (number : ∀ {value text}, rules.number value = some text → rules'.number value = some text)
    (bigint : ∀ {value text}, rules.bigint value = some text → rules'.bigint value = some text)
    (keeps : rules.dropsUndefined = false)
    {value : Value ν} {text : CodeUnits} (found : encode rules value = some text) : encode rules' value = some text := by
  induction value generalizing text with
  | undefined => cases found
  | null | boolean | text => exact found
  | number value => exact number found
  | bigint value =>
    obtain ⟨written, read, rfl⟩ := map_eq_some_iff.mp found
    rw [encode, bigint read, map_some]
  | array items ih =>
    have each : ∀ {texts}, encodeItems rules items = some texts → encodeItems rules' items = some texts := by
      clear found
      induction items with
      | nil => exact id
      | cons item items rest =>
        obtain ⟨first, others⟩ := forall_mem_cons.mp ih
        intro texts found
        simp only [encodeItems, Option.bind_eq_bind, bind_eq_some_iff, Option.pure_def, Option.some.injEq] at found ⊢
        obtain ⟨text, isText, texts, areTexts, rfl⟩ := found
        exact ⟨text, first isText, texts, rest others areTexts, rfl⟩
    obtain ⟨texts, areTexts, rfl⟩ := map_eq_some_iff.mp found
    rw [encode, each areTexts, map_some]
  | object members ih =>
    have each : ∀ {texts}, encodeMembers rules members = some texts → encodeMembers rules' members = some texts := by
      clear found
      induction members with
      | nil => exact id
      | cons member members rest =>
        obtain ⟨first, others⟩ := forall_mem_cons.mp ih
        intro texts found
        simp only [encodeMembers, keeps, Bool.false_and, Bool.false_eq_true, if_false, Option.bind_eq_bind, bind_eq_some_iff,
          Option.pure_def, Option.some.injEq] at found
        obtain ⟨text, isText, texts, areTexts, rfl⟩ := found
        -- A member that is written has a value, so no rules leave it out.
        have defined : member.2.isUndefined = false := by
          cases isUndefined : member.2.isUndefined with
          | false => rfl
          | true =>
            obtain ⟨name, value⟩ := member
            cases value <;> cases isUndefined
            cases isText
        rw [encodeMembers, defined, Bool.and_false, if_neg Bool.false_ne_true, first isText, rest others areTexts]
        rfl
    obtain ⟨texts, areTexts, rfl⟩ := map_eq_some_iff.mp found
    rw [encode, each areTexts, map_some]

/-- Two values differ only in the order of members, in members without a value where the serialiser leaves those out, in large
integers written as texts, and in numbers that count as the same. -/
inductive Alike (rules : Rules ν) (same : ν → ν → Prop) : Value ν → Value ν → Prop where
  | refl (value : Value ν) : Alike rules same value value
  | symm {first second : Value ν} : Alike rules same first second → Alike rules same second first
  | trans {first second third : Value ν} : Alike rules same first second →
      Alike rules same second third → Alike rules same first third
  | number {first second : ν} : same first second → Alike rules same (.number first) (.number second)
  | bigint {value : Int} {text : CodeUnits} : rules.bigint value = some text → Alike rules same (.bigint value) (.text text)
  | item {before after : List (Value ν)} {first second : Value ν} : Alike rules same first second →
      Alike rules same (.array (before ++ first :: after)) (.array (before ++ second :: after))
  | member {before after : List (CodeUnits × Value ν)} {name : CodeUnits} {first second : Value ν} :
      Alike rules same first second →
      Alike rules same (.object (before ++ (name, first) :: after)) (.object (before ++ (name, second) :: after))
  | dropped {before after : List (CodeUnits × Value ν)} {name : CodeUnits} : rules.dropsUndefined = true →
      Alike rules same (.object (before ++ (name, .undefined) :: after)) (.object (before ++ after))
  | order {members others : List (CodeUnits × Value ν)} : (members.map Prod.fst).Nodup → members.Perm others →
      Alike rules same (.object members) (.object others)

variable {same : ν → ν → Prop}

theorem treeMembers_perm {members others : List (CodeUnits × Value ν)}
    (perm : members.Perm others) (written : treeMembers rules others = some values) :
    ∃ values', treeMembers rules members = some values' ∧ values'.Perm values := by
  have each := treeMembers_some.mp written
  obtain ⟨values', each', same⟩ := List.perm_comp_forall₂ (perm.filter _) each
  exact ⟨values', treeMembers_some.mpr each', same⟩

theorem tree_order {members others : List (CodeUnits × Value ν)}
    (distinct : (members.map Prod.fst).Nodup) (perm : members.Perm others) :
    tree rules (.object members) = tree rules (.object others) := by
  have one : ∀ {members others : List (CodeUnits × Value ν)} {value : JsonValue},
    (members.map Prod.fst).Nodup → members.Perm others →
      tree rules (.object others) = some value → tree rules (.object members) = some value := by
    intro members others value distinct perm written
    rw [tree] at written ⊢
    obtain ⟨values, found, rfl⟩ := map_eq_some_iff.mp written
    obtain ⟨values', found', order⟩ := treeMembers_perm perm found
    have names : (values'.map Prod.fst).Nodup := names_written (treeMembers_some.mp found') ▸ nodup_kept distinct
    rw [found', map_some, byName_congr names order]
  have distinct' : (others.map Prod.fst).Nodup := (perm.map Prod.fst).nodup_iff.mp distinct
  ext value
  exact ⟨one distinct' perm.symm, one distinct perm⟩

theorem tree_item {before after : List (Value ν)} {first second : Value ν} (equal : tree rules first = tree rules second) :
    tree rules (.array (before ++ first :: after)) = tree rules (.array (before ++ second :: after)) := by
  have items : treeItems rules (before ++ first :: after) = treeItems rules (before ++ second :: after) := by
    induction before with
    | nil => rw [nil_append, nil_append, treeItems, treeItems, equal]
    | cons item before ih => rw [List.cons_append, List.cons_append, treeItems, treeItems, ih]
  rw [tree, tree, items]

theorem tree_member {before after : List (CodeUnits × Value ν)} {name : CodeUnits} {first second : Value ν}
    (equal : tree rules first = tree rules second) (undefined : first.isUndefined = second.isUndefined) :
    tree rules (.object (before ++ (name, first) :: after)) = tree rules (.object (before ++ (name, second) :: after)) := by
  have members : treeMembers rules (before ++ (name, first) :: after) =
    treeMembers rules (before ++ (name, second) :: after) := by
    induction before with
    | nil => rw [nil_append, nil_append, treeMembers, treeMembers, equal, undefined]
    | cons member before ih => rw [List.cons_append, List.cons_append, treeMembers, treeMembers, ih]
  rw [tree, tree, members]

theorem tree_dropped {before after : List (CodeUnits × Value ν)} {name : CodeUnits} (drops : rules.dropsUndefined = true) :
    tree rules (.object (before ++ (name, .undefined) :: after)) = tree rules (.object (before ++ after)) := by
  have members : treeMembers rules (before ++ (name, .undefined) :: after) = treeMembers rules (before ++ after) := by
    induction before with
    | nil => rw [nil_append, nil_append, treeMembers, drops, Bool.true_and, Value.isUndefined, if_pos rfl]
    | cons member before ih => rw [List.cons_append, List.cons_append, treeMembers, treeMembers, ih]
  rw [tree, tree, members]

/-- What the serialiser and the reader agree on about numbers. -/
structure Lawful (rules : Rules ν) (same : ν → ν → Prop) (read : CodeUnits → ν) : Prop where
  numeral : ∀ {value text}, rules.number value = some text → NumberText text
  written : ∀ {first second}, same first second → rules.number first = rules.number second
  reread : ∀ {value text}, rules.number value = some text → same value (read text)

variable {read : CodeUnits → ν}

/-- Values that are alike are written as the same value. -/
theorem Alike.tree_eq (law : Lawful rules same read) {first second : Value ν} (alike : Alike rules same first second) :
    tree rules first = tree rules second ∧ first.isUndefined = second.isUndefined := by
  induction alike with
  | refl => exact ⟨rfl, rfl⟩
  | symm _ ih => exact ⟨ih.1.symm, ih.2.symm⟩
  | trans _ _ ih ih' => exact ⟨ih.1.trans ih'.1, ih.2.trans ih'.2⟩
  | number equal => exact ⟨congrArg (Option.map _) (law.written equal), rfl⟩
  | bigint found => exact ⟨congrArg (Option.map _) found, rfl⟩
  | item _ ih => exact ⟨tree_item ih.1, rfl⟩
  | member _ ih => exact ⟨tree_member ih.1 ih.2, rfl⟩
  | dropped drops => exact ⟨tree_dropped drops, rfl⟩
  | order distinct perm => exact ⟨tree_order distinct perm, rfl⟩

theorem Alike.encode_eq (law : Lawful rules same read) {first second : Value ν} (alike : Alike rules same first second) :
    encode rules first = encode rules second := by
  rw [JsonValues.encode_eq, JsonValues.encode_eq, (alike.tree_eq law).1]

theorem Alike.items (before : List (Value ν)) {items others : List (Value ν)}
    (each : List.Forall₂ (Alike rules same) items others) :
    Alike rules same (.array (before ++ items)) (.array (before ++ others)) := by
  induction each generalizing before with
  | nil => exact .refl _
  | @cons item other items others first _ ih =>
    have next := ih (before ++ [other])
    rw [append_assoc, append_assoc, List.singleton_append, List.singleton_append] at next
    exact (Alike.item first).trans next

theorem Alike.members (before : List (CodeUnits × Value ν)) {members others : List (CodeUnits × Value ν)}
    (each : List.Forall₂ (fun member other => member.1 = other.1 ∧ Alike rules same member.2 other.2) members others) :
    Alike rules same (.object (before ++ members)) (.object (before ++ others)) := by
  induction each generalizing before with
  | nil => exact .refl _
  | @cons member other members others first _ ih =>
    have next := ih (before ++ [other])
    rw [append_assoc, append_assoc, List.singleton_append, List.singleton_append] at next
    obtain ⟨name, value⟩ := other
    obtain ⟨rfl, alike⟩ := first
    exact (Alike.member alike).trans next

/-- The members that are not written may as well be absent. -/
theorem Alike.kept (before members : List (CodeUnits × Value ν)) :
    Alike rules same (.object (before ++ members)) (.object (before ++ kept rules members)) := by
  induction members generalizing before with
  | nil => exact .refl _
  | cons member members ih =>
    rw [JsonValues.kept, List.filter_cons, ← JsonValues.kept]
    cases dropped : rules.dropsUndefined && member.2.isUndefined with
    | false =>
      have next := ih (before ++ [member])
      rw [append_assoc, append_assoc, List.singleton_append, List.singleton_append] at next
      exact next
    | true =>
      obtain ⟨drops, undefined⟩ := Bool.and_eq_true_iff.mp dropped
      obtain ⟨name, value⟩ := member
      cases value with
      | undefined => exact (Alike.dropped drops).trans (ih before)
      | _ => cases undefined

/-- A member put among others: the later one of a name counts. -/
def assign (members : List (CodeUnits × α)) (member : CodeUnits × α) : List (CodeUnits × α) :=
  if members.any (fun other => other.1 == member.1) then members.map (fun other => if other.1 == member.1 then member else other)
  else members ++ [member]

theorem foldl_assign {members before : List (CodeUnits × α)} (distinct : ((before ++ members).map Prod.fst).Nodup) :
    members.foldl assign before = before ++ members := by
  induction members generalizing before with
  | nil => exact (List.append_nil before).symm
  | cons member members ih =>
    have fresh : before.any (fun other => other.1 == member.1) = false := by
      rw [List.any_eq_false]
      intro other listed equal
      rw [List.map_append, List.nodup_append] at distinct
      exact distinct.2.2 other.1 (List.mem_map_of_mem listed) member.1 List.mem_cons_self (beq_iff_eq.mp equal)
    rw [List.foldl_cons, assign, fresh, if_neg Bool.false_ne_true, ih]
    · rw [append_assoc, List.singleton_append]
    · rwa [append_assoc, List.singleton_append]

variable (read)

mutual
/-- The value that a text is of. -/
def reread : JsonValue → Value ν
  | .scalar .null => .null
  | .scalar (.boolean value) => .boolean value
  | .scalar (.number numeral) => .number (read numeral)
  | .scalar (.text value) => .text value
  | .array items => .array (rereadItems items)
  | .object members => .object ((rereadMembers members).foldl assign [])

def rereadItems : List JsonValue → List (Value ν)
  | [] => []
  | item :: items => reread item :: rereadItems items

def rereadMembers : List (CodeUnits × JsonValue) → List (CodeUnits × Value ν)
  | [] => []
  | (name, value) :: members => (name, reread value) :: rereadMembers members
end

theorem rereadItems_eq (items : List JsonValue) : rereadItems read items = items.map (reread read) := by
  induction items with
  | nil => rfl
  | cons item items ih => rw [rereadItems, ih, map_cons]

theorem rereadMembers_eq (members : List (CodeUnits × JsonValue)) :
    rereadMembers read members = members.map (fun member => (member.1, reread read member.2)) := by
  induction members with
  | nil => rfl
  | cons member members ih => rw [rereadMembers, ih, map_cons]

theorem reread_object {members : List (CodeUnits × JsonValue)} (distinct : (members.map Prod.fst).Nodup) :
    reread read (.object members) = .object (members.map fun member => (member.1, reread read member.2)) := by
  have names : (members.map fun member => (member.1, reread read member.2)).map Prod.fst = members.map Prod.fst := by
    rw [List.map_map]
    rfl
  rw [reread, rereadMembers_eq, foldl_assign]
  · rfl
  · rwa [nil_append, names]

variable {read}

theorem forall₂_map_of_mem {R : α → β → Prop} {γ : Type*} {S : α → γ → Prop} {f : β → γ} {items : List α} {others : List β}
    (each : List.Forall₂ R items others) (next : ∀ item ∈ items, ∀ other, R item other → S item (f other)) :
    List.Forall₂ S items (others.map f) := by
  induction each with
  | nil => exact .nil
  | cons first _ ih =>
    obtain ⟨here, rest⟩ := forall_mem_cons.mp next
    exact .cons (here _ first) (ih rest)

theorem mem_kept {members : List (CodeUnits × Value ν)} {member : CodeUnits × Value ν} (listed : member ∈ kept rules members) :
    member ∈ members := List.mem_of_mem_filter listed

/-- A value is alike the one that is read back from what is written of it. -/
theorem alike_reread (law : Lawful rules same read) {value : Value ν} (distinct : Distinct value)
    (found : tree rules value = some written) : Alike rules same value (reread read written) := by
  induction value generalizing written with
  | undefined => cases found
  | null | boolean | text => cases found; exact .refl _
  | number value =>
    obtain ⟨numeral, text, rfl⟩ := map_eq_some_iff.mp found
    exact .number (law.reread text)
  | bigint value =>
    obtain ⟨text, same, rfl⟩ := map_eq_some_iff.mp found
    exact .bigint same
  | array items ih =>
    obtain ⟨values, each, rfl⟩ := map_eq_some_iff.mp found
    have alike := forall₂_map_of_mem (treeItems_some.mp each)
      (fun item listed other => @ih item listed other (distinct_array.mp distinct item listed))
    rw [reread, rereadItems_eq]
    exact Alike.items [] alike
  | object members ih =>
    obtain ⟨values, each, rfl⟩ := map_eq_some_iff.mp found
    obtain ⟨names, parts⟩ := distinct_object.mp distinct
    have written := treeMembers_some.mp each
    have named : (values.map Prod.fst).Nodup := names_written written ▸ nodup_kept names
    have alike := forall₂_map_of_mem (f := fun value => (value.1, reread read value.2)) written
      (S := fun member other => member.1 = other.1 ∧ Alike rules same member.2 other.2)
      (fun member listed value found => ⟨found.1, ih member (mem_kept listed) (parts member (mem_kept listed)) found.2⟩)
    have order := ((perm_byName values).map fun value => (value.1, reread read value.2)).symm
    have names' : ((values.map fun value => (value.1, reread read value.2)).map Prod.fst).Nodup := by
      rw [List.map_map]
      exact named
    rw [reread_object read (nodup_byName.mpr named)]
    exact ((Alike.kept [] members).trans (Alike.members [] alike)).trans (.order names' order)

theorem forall_right {R : α → β → Prop} {P : β → Prop} {items : List α} {others : List β} (each : List.Forall₂ R items others)
    (next : ∀ item ∈ items, ∀ other, R item other → P other) : ∀ other ∈ others, P other := by
  induction each with
  | nil => exact nofun
  | cons first _ ih =>
    obtain ⟨here, rest⟩ := forall_mem_cons.mp next
    exact forall_mem_cons.mpr ⟨here _ first, ih rest⟩

/-- Every numeral that is written is one. -/
theorem numerals_tree (law : Lawful rules same read) {value : Value ν} (found : tree rules value = some written) :
    Numerals written := by
  induction value generalizing written with
  | undefined => cases found
  | null | boolean | text => cases found; trivial
  | number value =>
    obtain ⟨numeral, text, rfl⟩ := map_eq_some_iff.mp found
    exact law.numeral text
  | bigint value =>
    obtain ⟨text, same, rfl⟩ := map_eq_some_iff.mp found
    trivial
  | array items ih =>
    obtain ⟨values, each, rfl⟩ := map_eq_some_iff.mp found
    exact numerals_array.mpr (forall_right (treeItems_some.mp each) fun item listed other => @ih item listed other)
  | object members ih =>
    obtain ⟨values, each, rfl⟩ := map_eq_some_iff.mp found
    have numerals := forall_right (P := fun member => Numerals member.2) (treeMembers_some.mp each)
      fun member listed other found => ih member (mem_kept listed) found.2
    exact numerals_object.mpr fun member listed => numerals member ((perm_byName values).mem_iff.mp listed)

/-- The names of each object that is read back differ. -/
theorem distinct_reread {value : Value ν} (distinct : Distinct value) (found : tree rules value = some written) :
    Distinct (reread read written) := by
  induction value generalizing written with
  | undefined => cases found
  | null | boolean | text => cases found; exact trivial
  | number value =>
    obtain ⟨numeral, _, rfl⟩ := map_eq_some_iff.mp found
    exact trivial
  | bigint value =>
    obtain ⟨text, _, rfl⟩ := map_eq_some_iff.mp found
    exact trivial
  | array items ih =>
    obtain ⟨values, each, rfl⟩ := map_eq_some_iff.mp found
    have parts := forall_right (P := fun value => Distinct (reread read value)) (treeItems_some.mp each)
      fun item listed other => ih item listed (distinct_array.mp distinct item listed)
    rw [reread, rereadItems_eq]
    exact distinct_array.mpr (List.forall_mem_map.mpr parts)
  | object members ih =>
    obtain ⟨values, each, rfl⟩ := map_eq_some_iff.mp found
    obtain ⟨names, apart⟩ := distinct_object.mp distinct
    have written := treeMembers_some.mp each
    have named : (values.map Prod.fst).Nodup := names_written written ▸ nodup_kept names
    have parts := forall_right (P := fun value => Distinct (reread read value.2)) written
      fun member listed other found => ih member (mem_kept listed) (apart member (mem_kept listed)) found.2
    rw [reread_object read (nodup_byName.mpr named)]
    refine distinct_object.mpr ⟨?_, List.forall_mem_map.mpr fun value listed =>
      parts value ((perm_byName values).mem_iff.mp listed)⟩
    rw [List.map_map]
    exact nodup_byName.mpr named

variable (read)

/-- The value of a text, its numerals read as numbers. -/
def parseValue (text : CodeUnits) : Option (Value ν) := (parse text).map (reread read)

variable {read}

theorem parseValue_encode (law : Lawful rules same read) {value : Value ν} (found : tree rules value = some written) :
    parseValue read (render written) = some (reread read written) := by
  rw [parseValue, parse_render (numerals_tree law found), map_some]

/-- A canonical text is read as a value alike, whose canonical text it is. -/
theorem encode_parseValue (law : Lawful rules same read) {value : Value ν} (distinct : Distinct value)
    (found : encode rules value = some text) :
    ∃ again, parseValue read text = some again ∧ Alike rules same value again ∧ encode rules again = some text := by
  have both := found
  rw [encode_eq] at both
  obtain ⟨written, isWritten, rfl⟩ := map_eq_some_iff.mp both
  have alike := alike_reread law distinct isWritten
  exact ⟨reread read written, parseValue_encode law isWritten, alike, (alike.encode_eq law).symm.trans found⟩

theorem distinct_parseValue (law : Lawful rules same read) {value again : Value ν} (distinct : Distinct value)
    (found : encode rules value = some text) (parsed : parseValue read text = some again) : Distinct again := by
  rw [encode_eq] at found
  obtain ⟨written, isWritten, rfl⟩ := map_eq_some_iff.mp found
  cases (parseValue_encode law isWritten).symm.trans parsed
  exact distinct_reread distinct isWritten

/-- A canonical text has no lone surrogate, so that its bytes tell it from any other. -/
theorem paired_encode (law : Lawful rules same read) {value : Value ν} (found : encode rules value = some text) :
    Utf16.Paired text := by
  rw [encode_eq] at found
  obtain ⟨written, isWritten, rfl⟩ := map_eq_some_iff.mp found
  exact paired_render (numerals_tree law isWritten)

/-- Two values have one canonical text exactly when they are alike. -/
theorem encode_eq_iff (law : Lawful rules same read) {first second : Value ν} (distinct : Distinct first)
    (distinct' : Distinct second) (found : encode rules first = some text) :
    encode rules second = some text ↔ Alike rules same first second := by
  constructor
  · intro found'
    obtain ⟨again, read, alike, _⟩ := encode_parseValue law distinct found
    obtain ⟨again', read', alike', _⟩ := encode_parseValue law distinct' found'
    cases read.symm.trans read'
    exact alike.trans alike'.symm
  · intro alike
    rw [← alike.encode_eq law, found]

end JBCenter.JsonValues
