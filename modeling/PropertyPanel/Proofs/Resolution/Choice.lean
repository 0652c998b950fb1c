/-
This file proves that the chosen subtype is the first of the most specific ones that match a node,
and that a choice among subtypes comes to the same with specificities in words of 32 bits.
-/

import Mathlib.Data.List.Induction
import PropertyPanel.Resolution.Subtype

namespace PropertyPanel

namespace ElementSubtype

variable {kind other : ElementSubtype}

/-- The specificity that is added up in words of 32 bits. -/
def wordSpecificity (kind : ElementSubtype) : UInt32 :=
  kind.criteria.foldl (fun sum criterion => sum + UInt32.ofNat criterion.specificity) 0

theorem wordSpecificity_ofNat : kind.wordSpecificity = UInt32.ofNat kind.specificity := by
  have added (criteria : List Criterion) (sum : UInt32) :
      criteria.foldl (fun sum criterion => sum + UInt32.ofNat criterion.specificity) sum =
        sum + UInt32.ofNat ((criteria.map Criterion.specificity).foldr (· + ·) 0) := by
    induction criteria generalizing sum with
    | nil => simp
    | cons criterion rest ih =>
        rw [List.foldl_cons, ih, List.map_cons, List.foldr_cons, UInt32.ofNat_add, UInt32.add_assoc]
  rw [wordSpecificity, added, UInt32.zero_add, specificity]

/-- No criterion weighs more than two. -/
theorem specificity_le (kind : ElementSubtype) :
    kind.specificity ≤ 2 * kind.criteria.length := by
  have sum (criteria : List Criterion) :
      (criteria.map Criterion.specificity).foldr (· + ·) 0 ≤ 2 * criteria.length := by
    induction criteria with
    | nil => exact Nat.le_refl 0
    | cons criterion rest ih =>
        have first : criterion.specificity ≤ 2 := by
          rw [Criterion.specificity]
          split <;> omega
        rw [List.map_cons, List.foldr_cons, List.length_cons]
        omega
  exact sum kind.criteria

/-- A word can hold twice the number of the criteria. -/
def FitsWord (kind : ElementSubtype) : Prop := 2 * kind.criteria.length < UInt32.size

theorem toNat_wordSpecificity (few : kind.FitsWord) :
    kind.wordSpecificity.toNat = kind.specificity := by
  rw [wordSpecificity_ofNat, UInt32.toNat_ofNat']
  exact Nat.mod_eq_of_lt (Nat.lt_of_le_of_lt kind.specificity_le few)

theorem wordSpecificity_lt (few : kind.FitsWord) (small : other.FitsWord) :
    kind.wordSpecificity < other.wordSpecificity ↔ kind.specificity < other.specificity := by
  rw [UInt32.lt_iff_toNat_lt, toNat_wordSpecificity few, toNat_wordSpecificity small]

end ElementSubtype

namespace LocationTable

variable {table : LocationTable} {node : BusinessObject}

/-- Each criterion finds a value, and this is the one that the criterion expects if it names one. -/
def Matches (table : LocationTable) (node : BusinessObject) (kind : ElementSubtype) : Prop :=
  ∀ criterion ∈ kind.criteria, ∃ found,
    table.read node criterion.id criterion.location = some found ∧
      ∀ expected ∈ criterion.value, found = expected

theorem holds_iff (criterion : Criterion) :
    table.holds node criterion = true ↔
      ∃ found, table.read node criterion.id criterion.location = some found ∧
        ∀ expected ∈ criterion.value, found = expected := by
  rw [holds]
  cases criterion.value with
  | none => simp [Option.isSome_iff_exists]
  | some expected => simp

theorem fits_iff (kind : ElementSubtype) :
    table.fits node kind = true ↔ table.Matches node kind := by
  rw [fits, List.all_eq_true]
  exact forall₂_congr fun criterion _ => holds_iff criterion

/-- A leading subtype matches, is more specific than those before it that match, and is at least as
specific as those after it. -/
def Leads (table : LocationTable) (node : BusinessObject) (kinds : List ElementSubtype)
    (kind : ElementSubtype) : Prop :=
  ∃ earlier later, kinds = earlier ++ kind :: later ∧ table.Matches node kind ∧
    (∀ other ∈ earlier, table.Matches node other → other.specificity < kind.specificity) ∧
    ∀ other ∈ later, table.Matches node other → other.specificity ≤ kind.specificity

namespace Leads

variable {kinds : List ElementSubtype} {kind other : ElementSubtype}

/-- No subtype that matches is more specific than the leading one. -/
theorem most_specific (leads : table.Leads node kinds kind) (listed : other ∈ kinds)
    (fitting : table.Matches node other) : other.specificity ≤ kind.specificity := by
  obtain ⟨earlier, later, rfl, _, below, above⟩ := leads
  rcases List.mem_append.mp listed with before | after
  · exact Nat.le_of_lt (below other before fitting)
  · rcases List.mem_cons.mp after with rfl | after
    · exact Nat.le_refl _
    · exact above other after fitting

/-- The lead is kept against a later subtype that does not match or is not more specific. -/
theorem keep (leads : table.Leads node kinds kind)
    (weaker : table.Matches node other → other.specificity ≤ kind.specificity) :
    table.Leads node (kinds ++ [other]) kind := by
  obtain ⟨earlier, later, rfl, fitting, below, above⟩ := leads
  refine ⟨earlier, later ++ [other], by simp, fitting, below, fun next listed => ?_⟩
  rcases List.mem_append.mp listed with before | last
  · exact above next before
  · exact List.mem_singleton.mp last ▸ weaker

/-- The lead is taken by a subtype that is more specific than all before it that match. -/
theorem take (fitting : table.Matches node kind)
    (below : ∀ other ∈ kinds, table.Matches node other →
      other.specificity < kind.specificity) : table.Leads node (kinds ++ [kind]) kind :=
  ⟨kinds, [], rfl, fitting, below, fun other listed => by cases listed⟩

/-- Of two leading subtypes that are not the same the first is both weaker and not weaker. -/
theorem ahead (left : List ElementSubtype) {right between behind : List ElementSubtype}
    {front back : ElementSubtype} (parts : front :: right = between ++ back :: behind)
    (fitting : table.Matches node front) (matching : table.Matches node back)
    (below : ∀ other ∈ left ++ between, table.Matches node other →
      other.specificity < back.specificity)
    (above : ∀ other ∈ right, table.Matches node other →
      other.specificity ≤ front.specificity) : front = back := by
  cases between with
  | nil => exact (List.cons.inj parts).1
  | cons passed between =>
      obtain ⟨rfl, rest⟩ := List.cons.inj parts
      have less := below front (by simp) fitting
      have more := above back (by simp [rest]) matching
      omega

/-- There is at most one leading subtype. -/
theorem unique (first : table.Leads node kinds kind) (second : table.Leads node kinds other) :
    kind = other := by
  obtain ⟨earlier, later, parts, fitting, below, above⟩ := first
  obtain ⟨before, after, same, matching, beneath, behind⟩ := second
  rcases List.append_eq_append_iff.mp (parts.symm.trans same) with
    ⟨between, longer, rest⟩ | ⟨between, longer, rest⟩
  · exact ahead earlier rest fitting matching (longer ▸ beneath) above
  · exact (ahead before rest matching fitting (longer ▸ below) behind).symm

end Leads

/-- What a choice among subtypes has come to when it has passed some of them. -/
inductive Chosen (table : LocationTable) (node : BusinessObject) (kinds : List ElementSubtype) :
    Option ElementSubtype → Prop where
  | none (unmatched : ∀ kind ∈ kinds, ¬ table.Matches node kind) : Chosen table node kinds none
  | some (kind : ElementSubtype) (leads : table.Leads node kinds kind) :
      Chosen table node kinds (some kind)

/-- One more subtype takes the lead if it matches and is more specific than the best so far. -/
theorem Chosen.next {kinds : List ElementSubtype} {best : Option ElementSubtype}
    (chosen : Chosen table node kinds best) (kind : ElementSubtype) :
    Chosen table node (kinds ++ [kind])
      (if table.fits node kind then better best kind else best) := by
  split
  · rename_i fits
    have fitting := (fits_iff kind).mp fits
    cases chosen with
    | none unmatched =>
        refine .some kind (.take fitting fun other listed held => ?_)
        exact absurd held (unmatched other listed)
    | some first leads =>
        rw [better]
        split
        · rename_i beaten
          exact .some kind (.take fitting fun other listed held =>
            Nat.lt_of_le_of_lt (leads.most_specific listed held) beaten)
        · rename_i stays
          exact .some first (leads.keep fun _ => Nat.le_of_not_lt stays)
  · rename_i unfit
    have unmatched : ¬ table.Matches node kind := fun held => unfit ((fits_iff kind).mpr held)
    cases chosen with
    | none others =>
        refine .none fun other listed => ?_
        rcases List.mem_append.mp listed with before | last
        · exact others other before
        · exact List.mem_singleton.mp last ▸ unmatched
    | some first leads => exact .some first (leads.keep fun held => absurd held unmatched)

variable (table node)

/-- A choice passes the subtypes in the order in which they are declared. -/
theorem chosen_determine (element : ElementConfiguration) :
    Chosen table node element.subtypes (table.determine element node) := by
  have pass (kinds : List ElementSubtype) :
      Chosen table node kinds ((kinds.filter (table.fits node)).foldl better none) := by
    induction kinds using List.reverseRecOn with
    | nil => exact .none fun kind listed => by cases listed
    | append_singleton kinds kind ih =>
        have step := ih.next kind
        rw [List.filter_append]
        cases fits : table.fits node kind with
        | true => simpa [fits] using step
        | false => simpa [fits] using step
  exact pass element.subtypes

variable {table node} {element : ElementConfiguration} {kind : ElementSubtype}

theorem determine_eq_some :
    table.determine element node = some kind ↔ table.Leads node element.subtypes kind := by
  have chosen := chosen_determine table node element
  generalize table.determine element node = best at chosen
  cases chosen with
  | none unmatched =>
      refine iff_of_false (by simp) fun leads => ?_
      obtain ⟨earlier, later, parts, fitting, _⟩ := leads
      exact unmatched kind (by simp [parts]) fitting
  | some first leads =>
      rw [Option.some_inj]
      exact ⟨fun same => same ▸ leads, leads.unique⟩

theorem determine_eq_none :
    table.determine element node = none ↔
      ∀ kind ∈ element.subtypes, ¬ table.Matches node kind := by
  have chosen := chosen_determine table node element
  generalize table.determine element node = best at chosen
  cases chosen with
  | none unmatched => exact iff_of_true rfl unmatched
  | some first leads =>
      obtain ⟨earlier, later, parts, fitting, _⟩ := leads
      refine iff_of_false (by simp) fun unmatched => ?_
      exact unmatched first (by simp [parts]) fitting

/-- The better one of two subtypes if their specificities are words. -/
def wordBetter (best : Option ElementSubtype) (kind : ElementSubtype) : Option ElementSubtype :=
  match best with
  | some chosen =>
      if chosen.wordSpecificity < kind.wordSpecificity then some kind else some chosen
  | none => some kind

theorem foldl_wordBetter {kinds : List ElementSubtype} (few : ∀ kind ∈ kinds, kind.FitsWord)
    {best : Option ElementSubtype} (small : ∀ chosen ∈ best, chosen.FitsWord) :
    kinds.foldl wordBetter best = kinds.foldl better best := by
  induction kinds generalizing best with
  | nil => rfl
  | cons kind rest ih =>
      rw [List.forall_mem_cons] at few
      have same : wordBetter best kind = better best kind := by
        cases best with
        | none => rfl
        | some chosen =>
            rw [wordBetter, better]
            simp only [ElementSubtype.wordSpecificity_lt (small chosen rfl) few.1]
      have next : ∀ chosen ∈ better best kind, chosen.FitsWord := by
        cases best with
        | none => exact fun _ chosen => Option.some.inj chosen ▸ few.1
        | some first =>
            rw [better]
            split
            · exact fun _ chosen => Option.some.inj chosen ▸ few.1
            · exact small
      rw [List.foldl_cons, List.foldl_cons, same]
      exact ih few.2 next

/-- A choice that adds up and compares words chooses the same subtype, as long as no subtype has so
many criteria that a sum could overflow. -/
theorem determine_words (few : ∀ kind ∈ element.subtypes, kind.FitsWord) :
    (element.subtypes.filter (table.fits node)).foldl wordBetter none =
      table.determine element node :=
  foldl_wordBetter (fun kind listed => few kind (List.mem_filter.mp listed).1)
    fun _ chosen => by cases chosen

/-- A subtype without criteria matches every node and is not specific at all. -/
theorem matches_unconditional (free : kind.criteria = []) :
    table.Matches node kind ∧ kind.specificity = 0 := by
  refine ⟨fun criterion listed => ?_, by rw [ElementSubtype.specificity, free]; rfl⟩
  rw [free] at listed
  cases listed

variable (table element node)

/-- A subtype is chosen exactly if it matches, every subtype declared before it that matches is
less specific, and none declared after it that matches is more specific. No subtype is chosen
exactly if none matches, and one without criteria matches always with specificity zero. -/
theorem determine_first_most_specific :
    (∀ kind, table.determine element node = some kind ↔
      ∃ earlier later, element.subtypes = earlier ++ kind :: later ∧ table.Matches node kind ∧
        (∀ other ∈ earlier, table.Matches node other → other.specificity < kind.specificity) ∧
        ∀ other ∈ later, table.Matches node other → other.specificity ≤ kind.specificity) ∧
    (table.determine element node = none ↔
      ∀ kind ∈ element.subtypes, ¬ table.Matches node kind) ∧
    ∀ kind : ElementSubtype, kind.criteria = [] →
      table.Matches node kind ∧ kind.specificity = 0 :=
  ⟨fun _ => determine_eq_some, determine_eq_none, fun _ => matches_unconditional⟩

end LocationTable

end PropertyPanel
