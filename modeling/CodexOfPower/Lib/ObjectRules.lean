/-
# `CodexOfPower.Lib.ObjectRules` — objects made member by member

A script that brings an object into shape makes each member of the result from the member
of that name, and sometimes from the rest of the object: it checks a type, converts, takes
a default.  Such a program is a list of rules, one for each member (`MemberRule`).  The
result has the members of the rules alone (`make`), or those of the source as well, where
no rule is about them (`assign`).

A rule is settled when it leaves alone what it has made, whatever the rest of the object
is.  Where all rules are, and no two are about one member, doing it twice is doing it once
(`make_make`, `assign_assign`).  Whether a rule is settled is a fact about the rule by
itself: it can be checked where the rule is written.

## What is not said

The order of the members is one that is convenient here, and no statement depends on it
beyond equality.  Getters, prototypes and symbols are not among the members: a value is
what the text of a document can say.
-/
import CodexOfPower.Lib.ScriptValue

namespace CodexOfPower

theorem utf8_injective : Function.Injective utf8 := by
  intro a b h
  unfold utf8 at h
  exact String.toByteArray_inj.mp (ByteArray.ext (Array.toList_inj.mp h))

namespace ScriptValue

/-- The members of an object; those of an array are its items, under their indices. -/
def ownMembers : ScriptValue → List (Bytes × ScriptValue)
  | .object members => members
  | .array items => items.zipIdx.map fun (item, index) => (utf8 (toString index), item)
  | _ => []

/-- `value && typeof value === "object" ? Object.assign({}, value) : value` -/
def copy : ScriptValue → ScriptValue
  | .object members => .object members
  | .array items => .object (ownMembers (.array items))
  | value => value

/-- `value != null ? value : other` -/
def coalesce (value other : ScriptValue) : ScriptValue :=
  match value with
  | .undefined | .null => other
  | value => value

theorem copy_copy (value : ScriptValue) : value.copy.copy = value.copy := by
  cases value <;> rfl

@[simp] theorem coalesce_number (n : ℚ) (other : ScriptValue) :
    (ScriptValue.number n).coalesce other = .number n := rfl

end ScriptValue

/-- What a member of the result is, made from that member of the source and from all of the
source. -/
structure MemberRule where
  key : String
  value : ScriptValue → ScriptValue → ScriptValue

/-- The rule leaves alone what it has made. -/
def MemberRule.Settled (rule : MemberRule) : Prop :=
  ∀ own source source', rule.value (rule.value own source) source' = rule.value own source

namespace ObjectRules

/-- The members that the rules make of the source. -/
def members (rules : List MemberRule) (source : ScriptValue) : List (Bytes × ScriptValue) :=
  rules.map fun rule => (utf8 rule.key, rule.value (source.member rule.key) source)

/-- `{ key: …, … }` -/
def make (rules : List MemberRule) (source : ScriptValue) : ScriptValue :=
  .object (members rules source)

/-- `Object.assign({}, source, { key: …, … })` -/
def assign (rules : List MemberRule) (source : ScriptValue) : ScriptValue :=
  .object (members rules source ++ source.ownMembers.filter fun entry =>
    !(rules.map fun rule => utf8 rule.key).contains entry.1)

/-- Every rule is about another member, and leaves alone what it has made. -/
structure Settled (rules : List MemberRule) : Prop where
  distinct : (rules.map MemberRule.key).Nodup
  each : ∀ rule ∈ rules, rule.Settled

variable {rules : List MemberRule} {rule : MemberRule} {source result : ScriptValue}
  {rest : List (Bytes × ScriptValue)}

theorem lookup_members (hdistinct : (rules.map MemberRule.key).Nodup) (hrule : rule ∈ rules) :
    (members rules source ++ rest).lookup (utf8 rule.key) =
      some (rule.value (source.member rule.key) source) := by
  induction rules with
  | nil => cases hrule
  | cons first others ih =>
    obtain ⟨hfirst, hothers⟩ := List.nodup_cons.mp hdistinct
    show List.lookup _ ((utf8 first.key, first.value (source.member first.key) source) ::
      (members others source ++ rest)) = _
    rcases List.mem_cons.mp hrule with rfl | hmem
    · exact List.lookup_cons_self
    · have hne : (utf8 rule.key == utf8 first.key) = false := by
        refine beq_false_of_ne fun heq => hfirst ?_
        rw [← utf8_injective heq]
        exact List.mem_map_of_mem hmem
      rw [List.lookup_cons, hne]
      exact ih hothers hmem

theorem member_make (hdistinct : (rules.map MemberRule.key).Nodup) (hrule : rule ∈ rules) :
    (make rules source).member rule.key = rule.value (source.member rule.key) source := by
  have hlookup : (members rules source ++ []).lookup (utf8 rule.key) =
      some (rule.value (source.member rule.key) source) := lookup_members hdistinct hrule
  rw [List.append_nil] at hlookup
  show ((members rules source).lookup _).getD _ = _
  rw [hlookup]
  rfl

theorem member_assign (hdistinct : (rules.map MemberRule.key).Nodup) (hrule : rule ∈ rules) :
    (assign rules source).member rule.key = rule.value (source.member rule.key) source := by
  show ((members rules source ++ _).lookup _).getD _ = _
  rw [lookup_members hdistinct hrule]
  rfl

/-- The rules make the same members of a result that has them. -/
theorem members_of_result (h : Settled rules) (hresult : ∀ rule ∈ rules,
    result.member rule.key = rule.value (source.member rule.key) source) :
    members rules result = members rules source := by
  refine List.map_congr_left fun rule hrule => ?_
  rw [hresult rule hrule, h.each rule hrule]

theorem make_make (h : Settled rules) (source : ScriptValue) :
    make rules (make rules source) = make rules source :=
  congrArg ScriptValue.object
    (members_of_result h fun _ hrule => member_make h.distinct hrule)

theorem assign_assign (h : Settled rules) (source : ScriptValue) :
    assign rules (assign rules source) = assign rules source := by
  have hmembers : members rules (assign rules source) = members rules source :=
    members_of_result h fun _ hrule => member_assign h.distinct hrule
  have hmade : (members rules source).filter (fun entry =>
      !(rules.map fun rule => utf8 rule.key).contains entry.1) = [] := by
    refine List.filter_eq_nil_iff.mpr fun entry hentry => ?_
    obtain ⟨rule, hrule, rfl⟩ := List.mem_map.mp hentry
    have hkey : (rules.map fun rule => utf8 rule.key).contains (utf8 rule.key) = true :=
      List.contains_iff_mem.mpr (List.mem_map_of_mem hrule)
    rw [hkey]
    exact Bool.false_ne_true
  -- What is kept of the source besides is kept again.
  show ScriptValue.object (members rules (assign rules source) ++ (members rules source ++
    source.ownMembers.filter _).filter _) = _
  rw [hmembers, List.filter_append, hmade, List.nil_append, List.filter_filter]
  simp only [Bool.and_self]
  rfl

end ObjectRules

end CodexOfPower
