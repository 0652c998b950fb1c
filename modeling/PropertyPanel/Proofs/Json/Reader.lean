/-
This file proves that the compact text of a JSON value is read back as the value.
-/

import PropertyPanel.Json.Reader
import PropertyPanel.Proofs.Dictionary
import PropertyPanel.Proofs.Json.Token

namespace PropertyPanel.Json

mutual

/-- The tree that the text of a value spells. -/
def spelled : Json → Source
  | null => .leaf (.ofAtom .null)
  | flag value => .leaf (.ofAtom (.flag value))
  | number value => .leaf (.ofAtom (.number value))
  | text value => .leaf (.ofAtom (.text value))
  | list items => .list (spelledItems items)
  | object members => .table (spelledMembers members)

def spelledItems : List Json → List Source
  | [] => []
  | item :: rest => spelled item :: spelledItems rest

def spelledMembers : List (String × Json) → List (Source.Leaf × Source)
  | [] => []
  | (name, value) :: rest => (.ofText name, spelled value) :: spelledMembers rest

end

theorem spelledItems_map (items : List Json) : spelledItems items = items.map spelled := by
  induction items with
  | nil => rfl
  | cons item rest ih => rw [spelledItems, ih, List.map_cons]

namespace Reading

/-- The first item of a list is read like any other value. -/
theorem read_firstItem (value : Json) (reversed : List Source) (frames : List Frame)
    (rest : List Token) :
    (value.tokens ++ rest).foldlM step? ⟨.firstItem, .list reversed :: frames, none⟩ =
      (value.tokens ++ rest).foldlM step? ⟨.value, .list reversed :: frames, none⟩ := by
  cases value <;> rfl

theorem itemTokens_cons (item : Json) (others : List Json) :
    ∃ more, itemTokens (item :: others) = item.tokens ++ more := by
  cases others with
  | nil => exact ⟨[], (List.append_nil _).symm⟩
  | cons second others => exact ⟨_, rfl⟩

theorem memberTokens_cons (member : String × Json) (others : List (String × Json)) :
    ∃ more, memberTokens (member :: others) = .atom (.text member.1) :: more := by
  cases others with
  | nil => exact ⟨_, rfl⟩
  | cons second others => exact ⟨_, rfl⟩

mutual

/-- The tokens of a value that is expected finish the tree that it spells. -/
theorem read_tokens (value : Json) (frames : List Frame) (rest : List Token) :
    (value.tokens ++ rest).foldlM step? ⟨.value, frames, none⟩ =
      rest.foldlM step? (finish value.spelled frames) := by
  match value with
  | null | flag _ | number _ | text _ => rfl
  | list [] => rfl
  | list (item :: others) =>
      have inner := read_itemTokens (item :: others) (List.cons_ne_nil item others) [] frames rest
      obtain ⟨more, begins⟩ := itemTokens_cons item others
      have opened : (list (item :: others)).tokens ++ rest =
          .openList :: (itemTokens (item :: others) ++ .closeList :: rest) := by
        simp [tokens]
      rw [opened]
      refine Eq.trans ?_ inner
      rw [begins, List.append_assoc]
      exact read_firstItem item [] frames _
  | object [] => rfl
  | object (member :: others) =>
      have inner := read_memberTokens (member :: others) (List.cons_ne_nil member others) []
        (.ofAtom .null) frames rest
      obtain ⟨more, begins⟩ := memberTokens_cons member others
      have opened : (object (member :: others)).tokens ++ rest =
          .openObject :: (memberTokens (member :: others) ++ .closeObject :: rest) := by
        simp [tokens]
      rw [opened]
      refine Eq.trans ?_ inner
      rw [begins]
      rfl

/-- The tokens of the items that are left finish the tree of their list. -/
theorem read_itemTokens (items : List Json) (present : items ≠ []) (reversed : List Source)
    (frames : List Frame) (rest : List Token) :
    (itemTokens items ++ .closeList :: rest).foldlM step?
        ⟨.value, .list reversed :: frames, none⟩ =
      rest.foldlM step? (finish (.list (reversed.reverse ++ spelledItems items)) frames) := by
  match items with
  | [] => exact absurd rfl present
  | [item] =>
      have only := read_tokens item (.list reversed :: frames) (.closeList :: rest)
      have closed : (item.spelled :: reversed).reverse = reversed.reverse ++ spelledItems [item] :=
        List.reverse_cons
      rw [← closed]
      exact only
  | item :: second :: others =>
      have first := read_tokens item (.list reversed :: frames)
        (.comma :: (itemTokens (second :: others) ++ .closeList :: rest))
      have later := read_itemTokens (second :: others) (List.cons_ne_nil second others)
        (item.spelled :: reversed) frames rest
      have listed : (item.spelled :: reversed).reverse ++ spelledItems (second :: others) =
          reversed.reverse ++ spelledItems (item :: second :: others) := by
        simp [spelledItems]
      rw [listed] at later
      simp only [itemTokens, List.cons_append, List.append_assoc]
      exact first.trans later

/-- The tokens of the members that are left finish the tree of their object. -/
theorem read_memberTokens (members : List (String × Json)) (present : members ≠ [])
    (reversed : List (Source.Leaf × Source)) (last : Source.Leaf) (frames : List Frame)
    (rest : List Token) :
    (memberTokens members ++ .closeObject :: rest).foldlM step?
        ⟨.name, .object reversed last :: frames, none⟩ =
      rest.foldlM step?
        (finish (.table (reversed.reverse ++ spelledMembers members)) frames) := by
  match members with
  | [] => exact absurd rfl present
  | [(name, value)] =>
      have only := read_tokens value (.object reversed (.ofText name) :: frames)
        (.closeObject :: rest)
      have closed : ((.ofText name, value.spelled) :: reversed).reverse =
          reversed.reverse ++ spelledMembers [(name, value)] := List.reverse_cons
      rw [← closed]
      exact only
  | (name, value) :: second :: others =>
      have first := read_tokens value (.object reversed (.ofText name) :: frames)
        (.comma :: (memberTokens (second :: others) ++ .closeObject :: rest))
      have later := read_memberTokens (second :: others) (List.cons_ne_nil second others)
        ((.ofText name, value.spelled) :: reversed) (.ofText name) frames rest
      have listed : ((.ofText name, value.spelled) :: reversed).reverse ++
          spelledMembers (second :: others) =
            reversed.reverse ++ spelledMembers ((name, value) :: second :: others) := by
        simp [spelledMembers]
      rw [listed] at later
      simp only [memberTokens, List.cons_append, List.append_assoc]
      exact first.trans later

end

end Reading

/-- The compact text of a value spells the value. -/
theorem source?_compact (value : Json) (integral : Integral value) :
    source? value.compact = some value.spelled := by
  have read := Reading.read_tokens value [] []
  rw [List.append_nil] at read
  rw [source?, scan?_compact value integral, Option.bind_some, Reading.start, read]
  rfl

mutual

/-- The number of levels on which lists and objects are nested in a value. -/
def levels : Json → Nat
  | null | flag _ | number _ | text _ => 0
  | list items => itemLevels items + 1
  | object members => memberLevels members + 1

def itemLevels : List Json → Nat
  | [] => 0
  | item :: rest => max (levels item) (itemLevels rest)

def memberLevels : List (String × Json) → Nat
  | [] => 0
  | (_, value) :: rest => max (levels value) (memberLevels rest)

end

theorem itemLevels_le {items : List Json} {limit : Nat} :
    itemLevels items ≤ limit ↔ ∀ item ∈ items, item.levels ≤ limit := by
  induction items with
  | nil => simp [itemLevels]
  | cons item rest ih => rw [itemLevels, Nat.max_le, ih, List.forall_mem_cons]

theorem levels_texts (values : List String) : (texts values).levels = 1 := by
  have flat : itemLevels (values.map text) ≤ 0 := by
    rw [itemLevels_le]
    intro item listed
    obtain ⟨value, _, same⟩ := List.mem_map.mp listed
    exact same ▸ Nat.le_refl 0
  rw [texts, levels, Nat.le_zero.mp flat]

mutual

/-- The members of each object in a value have distinct names. -/
def Distinct : Json → Prop
  | null | flag _ | number _ | text _ => True
  | list items => DistinctItems items
  | object members => (members.map Prod.fst).Nodup ∧ DistinctMembers members

def DistinctItems : List Json → Prop
  | [] => True
  | item :: rest => Distinct item ∧ DistinctItems rest

def DistinctMembers : List (String × Json) → Prop
  | [] => True
  | (_, value) :: rest => Distinct value ∧ DistinctMembers rest

end

theorem distinctItems_iff {items : List Json} :
    DistinctItems items ↔ ∀ item ∈ items, Distinct item := by
  induction items with
  | nil => simp [DistinctItems]
  | cons item rest ih => rw [DistinctItems, ih, List.forall_mem_cons]

theorem distinctMembers_iff {members : List (String × Json)} :
    DistinctMembers members ↔ ∀ member ∈ members, Distinct member.2 := by
  induction members with
  | nil => simp [DistinctMembers]
  | cons member rest ih => rw [DistinctMembers, ih, List.forall_mem_cons]

theorem readable_texts (values : List String) :
    (texts values).Integral ∧ (texts values).Distinct := by
  rw [texts, Integral, Distinct, integralItems_iff, distinctItems_iff, List.forall_mem_map,
    List.forall_mem_map]
  exact ⟨fun _ _ => trivial, fun _ _ => trivial⟩

mutual

/-- A tree that spells a value stands for it if it is not nested too deeply. -/
theorem json?_spelled (value : Json) (distinct : Distinct value) (limit : Nat) :
    value.spelled.json? limit = if value.levels ≤ limit then some value else none := by
  match value with
  | null | flag _ | number _ | text _ =>
      simp [spelled, Source.json?, Source.Leaf.ofAtom, Source.Leaf.ofText, levels]
  | list items =>
      have inner := jsonItems?_spelled items distinct (limit - 1)
      rw [spelled, Source.json?, inner, levels]
      by_cases fits : itemLevels items + 1 ≤ limit
      · have inside : itemLevels items ≤ limit - 1 := by omega
        have positive : limit ≠ 0 := by omega
        simp [fits, inside, positive]
      · have outside : limit = 0 ∨ ¬ itemLevels items ≤ limit - 1 := by omega
        rcases outside with zero | deep
        · simp [zero]
        · simp [fits, deep]
  | object members =>
      have inner := jsonEntries?_spelled members distinct.2 (limit - 1)
      rw [spelled, Source.json?, inner, levels]
      by_cases fits : memberLevels members + 1 ≤ limit
      · have inside : memberLevels members ≤ limit - 1 := by omega
        have positive : limit ≠ 0 := by omega
        simp [fits, inside, positive, Entries.gather_distinct distinct.1]
      · have outside : limit = 0 ∨ ¬ memberLevels members ≤ limit - 1 := by omega
        rcases outside with zero | deep
        · simp [zero]
        · simp [fits, deep]

theorem jsonItems?_spelled (items : List Json) (distinct : DistinctItems items) (limit : Nat) :
    Source.jsonItems? limit (spelledItems items) =
      if itemLevels items ≤ limit then some items else none := by
  match items with
  | [] => rfl
  | item :: rest =>
      have first := json?_spelled item distinct.1 limit
      have later := jsonItems?_spelled rest distinct.2 limit
      simp only [spelledItems, Source.jsonItems?, first, later, itemLevels, Nat.max_le]
      by_cases fits : item.levels ≤ limit <;> by_cases deep : itemLevels rest ≤ limit <;>
        simp [fits, deep]

theorem jsonEntries?_spelled (members : List (String × Json))
    (distinct : DistinctMembers members) (limit : Nat) :
    Source.jsonEntries? limit (spelledMembers members) =
      if memberLevels members ≤ limit then some members else none := by
  match members with
  | [] => rfl
  | (name, value) :: rest =>
      have first := json?_spelled value distinct.1 limit
      have later := jsonEntries?_spelled rest distinct.2 limit
      simp only [spelledMembers, Source.jsonEntries?, first, later, memberLevels, Nat.max_le]
      by_cases fits : value.levels ≤ limit <;> by_cases deep : memberLevels rest ≤ limit <;>
        simp [fits, deep, Source.Leaf.ofText]

end

end PropertyPanel.Json

namespace PropertyPanel.Source

/-- A list of written values is read back if each value is. -/
theorem mapM_written {Value Written : Type} (write : Value → Written)
    (decode : Written → Option Value) (values : List Value) :
    (values.map write).mapM decode = some values ↔
      ∀ value ∈ values, decode (write value) = some value := by
  induction values with
  | nil => simp
  | cons value rest ih =>
      rw [List.map_cons, List.mapM_cons, List.forall_mem_cons, ← ih]
      cases decode (write value) with
      | none => simp
      | some first =>
          cases (rest.map write).mapM decode with
          | none => simp
          | some others => simp

/-- A value that is read comes from an item of the list. -/
theorem mem_mapM {Value Written : Type} {decode : Written → Option Value} {items : List Written}
    {values : List Value} (done : items.mapM decode = some values) {value : Value}
    (listed : value ∈ values) : ∃ item ∈ items, decode item = some value := by
  induction items generalizing values with
  | nil =>
      cases done
      cases listed
  | cons item rest ih =>
      simp only [List.mapM_cons, Option.bind_eq_bind, Option.bind_eq_some_iff] at done
      obtain ⟨first, known, others, later, same⟩ := done
      cases same
      cases List.mem_cons.mp listed with
      | inl head => exact ⟨item, List.mem_cons_self, head ▸ known⟩
      | inr tail =>
          obtain ⟨other, inside, decoded⟩ := ih later tail
          exact ⟨other, List.mem_cons_of_mem _ inside, decoded⟩

theorem items?_texts (values : List String) :
    items? text? (Json.texts values).spelled = some values := by
  rw [Json.texts, Json.spelled, Json.spelledItems_map, List.map_map, items?, mapM_written]
  intro value _
  rfl

end PropertyPanel.Source
