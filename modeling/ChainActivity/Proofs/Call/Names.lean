import ChainActivity.Call.Function
import Mathlib.Data.List.Infix

/-!
# Names of functions

A name means at most one function, so that the function it means does not depend on
the order in which the functions are listed.

## Main definitions

* `ContractFunction.Means` — whether a name means a function.
* `ContractFunction.ofNameIn?` — the function that a name means among listed ones.
* `NamePattern`, `ContractFunction.pattern` — the names that mean a function.

## Main statements

* `ContractFunction.eq_of_means` — a name means at most one function.
* `ContractFunction.ofNameIn?_eq_some_iff`, `ContractFunction.ofName?_eq_some_iff` — the function of
  a name is the one it means.
* `ContractFunction.matches_pattern` — so is the one whose pattern the name matches.
* `ContractFunction.ofName?_unambiguous` — no order of the functions and no suffix of a family's
  name changes the function of a name.

## Design notes

The name of one family could be the beginning of another function's name.  That this
does not happen is the only fact about the names themselves (`eq_of_isPrefix`); two
families that share a member reduce to it, since of two beginnings of one text one is
the beginning of the other.
-/

namespace ChainActivity

/-- Names that are given by one text: the text itself, or every name that begins with
it. -/
inductive NamePattern where
  | exactly (name : String)
  | beginning (stem : String)
  deriving DecidableEq, Repr

/-- Whether a name is one of those that a pattern gives. -/
def NamePattern.matches : NamePattern → String → Bool
  | exactly own, name => name = own
  | beginning stem, name => stem.toList.isPrefixOf name.toList

namespace ContractFunction

variable {f g : ContractFunction} {name : String}

/-- Whether a name means a function: it is the name of the function, or the function is
a family and the name begins with its name. -/
def Means (f : ContractFunction) (name : String) : Prop :=
  name = f.name ∨ (f.isFamily = true ∧ f.name.toList <+: name.toList)

theorem hasMember_iff :
    f.hasMember name = true ↔ f.isFamily = true ∧ f.name.toList <+: name.toList := by
  rw [hasMember, Bool.and_eq_true, List.isPrefixOf_iff_prefix]

/-- Different functions have different names. -/
theorem name_inj (same : f.name = g.name) : f = g := by
  have apart : ∀ f ∈ all, ∀ g ∈ all, f.name = g.name → f = g := by decide
  exact apart f (mem_all f) g (mem_all g) same

/-- The name of a family begins no other function's name. -/
theorem eq_of_isPrefix (family : f.isFamily = true) (begins : f.name.toList <+: g.name.toList) :
    f = g := by
  have apart : ∀ f ∈ all, f.isFamily = true → ∀ g ∈ all,
      f.name.toList.isPrefixOf g.name.toList = true → f = g := by decide
  exact apart f (mem_all f) family g (mem_all g) (List.isPrefixOf_iff_prefix.mpr begins)

/-- A name means at most one function. -/
theorem eq_of_means (first : f.Means name) (second : g.Means name) : f = g := by
  rcases first with rfl | ⟨family, begins⟩
  · rcases second with same | ⟨family, begins⟩
    · exact name_inj same
    · exact (eq_of_isPrefix family begins).symm
  · rcases second with rfl | ⟨family', begins'⟩
    · exact eq_of_isPrefix family begins
    · rcases List.prefix_or_prefix_of_prefix begins begins' with shorter | shorter
      · exact eq_of_isPrefix family shorter
      · exact (eq_of_isPrefix family' shorter).symm

/-- The function that a name means among listed ones, as the list gives it: the first of that name,
else the first family that the name belongs to. -/
def ofNameIn? (functions : List ContractFunction) (name : String) : Option ContractFunction :=
  (functions.find? fun f => f.name = name).or (functions.find? fun f => f.hasMember name)

variable {functions : List ContractFunction}

/-- The function found in a list is listed, and the name means it. -/
theorem means_of_ofNameIn? (found : ofNameIn? functions name = some f) :
    f ∈ functions ∧ f.Means name := by
  rw [ofNameIn?, Option.or_eq_some_iff] at found
  rcases found with own | ⟨-, member⟩
  · have named := List.find?_some own
    exact ⟨List.mem_of_find?_eq_some own, .inl (of_decide_eq_true named).symm⟩
  · have belongs := List.find?_some member
    exact ⟨List.mem_of_find?_eq_some member, .inr (hasMember_iff.mp belongs)⟩

/-- A name that means a listed function has one in the list. -/
theorem ofNameIn?_ne_none (listed : f ∈ functions) (means : f.Means name) :
    ofNameIn? functions name ≠ none := by
  rw [ofNameIn?, ne_eq, Option.or_eq_none_iff, List.find?_eq_none, List.find?_eq_none]
  rintro ⟨unnamed, stranger⟩
  rcases means with rfl | family
  · exact unnamed f listed (decide_eq_true rfl)
  · exact stranger f listed (hasMember_iff.mpr family)

/-- Where a function stands in a list makes no difference. -/
theorem ofNameIn?_eq_some_iff :
    ofNameIn? functions name = some f ↔ f ∈ functions ∧ f.Means name := by
  refine ⟨means_of_ofNameIn?, fun ⟨listed, means⟩ => ?_⟩
  obtain ⟨g, found⟩ := Option.ne_none_iff_exists'.mp (ofNameIn?_ne_none listed means)
  rw [found, eq_of_means (means_of_ofNameIn? found).2 means]

/-- The function of a name is the one that it means. -/
theorem ofName?_eq_some_iff : ofName? name = some f ↔ f.Means name :=
  ofNameIn?_eq_some_iff.trans (and_iff_right (mem_all f))

/-- A longer name means the family too. -/
theorem Means.append (family : f.isFamily = true) (means : f.Means name) (suffix : String) :
    f.Means (name ++ suffix) := by
  have begins : f.name.toList <+: name.toList := by
    rcases means with rfl | ⟨-, begins⟩
    · exact List.prefix_refl _
    · exact begins
  right
  rw [String.toList_append]
  exact ⟨family, begins.trans (List.prefix_append _ _)⟩

/-- The names that mean a function. -/
def pattern (f : ContractFunction) : NamePattern :=
  if f.isFamily then .beginning f.name else .exactly f.name

/-- A name matches the pattern of the function that it means, and of no other. -/
theorem matches_pattern (f : ContractFunction) (name : String) :
    f.pattern.matches name = decide (ofName? name = some f) := by
  rw [Bool.eq_iff_iff, decide_eq_true_iff, ofName?_eq_some_iff, Means, pattern]
  cases family : f.isFamily with
  | false => simp [NamePattern.matches]
  | true =>
    have reflexive : name = f.name → f.name.toList <+: name.toList := by
      rintro rfl
      exact List.prefix_refl _
    simpa [NamePattern.matches] using reflexive

/-- **A name means at most one function**, and that is the one which is found for it, in whatever
order the functions are listed.  What stands behind the name of a family makes no difference. -/
theorem ofName?_unambiguous (name : String) :
    (∀ f g : ContractFunction, f.Means name → g.Means name → f = g) ∧
    (∀ f, ofName? name = some f ↔ f.Means name) ∧
    (ofName? name = none ↔ ∀ f : ContractFunction, ¬ f.Means name) ∧
    (∀ functions : List ContractFunction, functions.Perm all →
      ofNameIn? functions name = ofName? name) ∧
    ∀ f, ofName? name = some f → f.isFamily = true →
      ∀ suffix, ofName? (name ++ suffix) = some f := by
  refine ⟨fun _ _ => eq_of_means, fun _ => ofName?_eq_some_iff, ?_, ?_, ?_⟩
  · rw [Option.eq_none_iff_forall_ne_some]
    exact forall_congr' fun f => not_congr ofName?_eq_some_iff
  · intro functions order
    ext f
    rw [ofNameIn?_eq_some_iff, ofName?_eq_some_iff]
    exact and_iff_right (order.mem_iff.mpr (mem_all f))
  · intro f found family suffix
    exact ofName?_eq_some_iff.mpr ((ofName?_eq_some_iff.mp found).append family suffix)

/-- In a list that is turned round `claimRewardsProxy` stands before the name that it begins with,
and a member of a family begins longer ones. -/
theorem ofName?_unambiguous_of_proxies :
    all.reverse.Perm all ∧
      ofNameIn? all.reverse "claimRewardsProxy" = some claimRewardsProxy ∧
      ofName? "exitFarmProxy" = some exitFarm ∧ exitFarm.isFamily = true ∧
      ofName? ("exitFarmProxy" ++ "V2") = some exitFarm := by
  have order : all.reverse.Perm all := all.reverse_perm
  obtain ⟨-, finds, -, listed, -⟩ := ofName?_unambiguous "claimRewardsProxy"
  obtain ⟨-, farms, -, -, longer⟩ := ofName?_unambiguous "exitFarmProxy"
  have farm : ofName? "exitFarmProxy" = some exitFarm := (farms exitFarm).mpr (.inr (by decide))
  refine ⟨order, ?_, farm, rfl, longer exitFarm farm rfl "V2"⟩
  exact (listed _ order).trans ((finds claimRewardsProxy).mpr (.inl rfl))

end ContractFunction

end ChainActivity
