/-!
Finite maps that remember the order in which their keys first came, as lists of pairs. Writing to a
key that is already there changes the value in place; a new key goes to the end. Keys are compared
by `==`, and the key that came first stays.
-/

namespace ConstrainedDecoding

variable {κ ν : Type}

namespace Keyed

/-- The value of a key. -/
def get? [BEq κ] : List (κ × ν) → κ → Option ν
  | [], _ => none
  | (k, v) :: rest, key => if k == key then some v else get? rest key

/-- Whether a key is present. -/
def has [BEq κ] (entries : List (κ × ν)) (key : κ) : Bool :=
  entries.any (·.1 == key)

/-- The map with a key set to a value. -/
def insert [BEq κ] : List (κ × ν) → κ → ν → List (κ × ν)
  | [], key, value => [(key, value)]
  | (k, v) :: rest, key, value =>
    if k == key then (k, value) :: rest else (k, v) :: insert rest key value

/-- The map that results from setting the pairs in turn. -/
def ofList [BEq κ] (pairs : List (κ × ν)) : List (κ × ν) :=
  pairs.foldl (fun entries pair => insert entries pair.1 pair.2) []

/-- The keys in order. -/
def keys (entries : List (κ × ν)) : List κ :=
  entries.map Prod.fst

/-- The values in order. -/
def values (entries : List (κ × ν)) : List ν :=
  entries.map Prod.snd

/-! ## Keys stay distinct -/

@[simp] theorem keys_cons (entry : κ × ν) (rest : List (κ × ν)) :
    keys (entry :: rest) = entry.1 :: keys rest := rfl

theorem mem_keys_insert [BEq κ] {entries : List (κ × ν)} {key : κ} {value : ν} {k : κ}
    (mem : k ∈ keys (insert entries key value)) : k ∈ keys entries ∨ k = key := by
  induction entries with
  | nil => simpa [insert, keys] using mem
  | cons entry rest ih =>
    unfold insert at mem
    split at mem
    · exact Or.inl mem
    · rcases List.mem_cons.1 mem with rfl | tail
      · exact Or.inl List.mem_cons_self
      · exact (ih tail).imp (List.mem_cons_of_mem _) id

theorem nodup_keys_insert [BEq κ] [LawfulBEq κ] {entries : List (κ × ν)} (key : κ) (value : ν)
    (distinct : (keys entries).Nodup) : (keys (insert entries key value)).Nodup := by
  induction entries with
  | nil => simp [insert, keys]
  | cons entry rest ih =>
    obtain ⟨fresh, tail⟩ := List.nodup_cons.1 distinct
    unfold insert
    split
    · exact distinct
    · rename_i differ
      exact List.nodup_cons.2
        ⟨fun mem => (mem_keys_insert mem).elim fresh (by simpa using differ), ih tail⟩

/-- Setting pairs in turn never leaves a key twice. -/
theorem nodup_keys_ofList [BEq κ] [LawfulBEq κ] (pairs : List (κ × ν)) :
    (keys (ofList pairs)).Nodup :=
  List.foldlRecOn (motive := fun entries => (keys entries).Nodup) pairs _ (by simp [keys])
    fun _ distinct pair _ => nodup_keys_insert pair.1 pair.2 distinct

/-! ## Pairs with distinct keys -/

theorem insert_of_notMem [BEq κ] [LawfulBEq κ] {entries : List (κ × ν)} {key : κ} (value : ν)
    (fresh : key ∉ keys entries) : insert entries key value = entries ++ [(key, value)] := by
  induction entries with
  | nil => rfl
  | cons entry rest ih =>
    rw [keys_cons, List.mem_cons, not_or] at fresh
    rw [insert, if_neg (by simpa using Ne.symm fresh.1), ih fresh.2, List.cons_append]

theorem foldl_insert_of_nodup [BEq κ] [LawfulBEq κ] {entries pairs : List (κ × ν)}
    (distinct : (keys (entries ++ pairs)).Nodup) :
    pairs.foldl (fun entries pair => insert entries pair.1 pair.2) entries = entries ++ pairs := by
  induction pairs generalizing entries with
  | nil => simp
  | cons pair rest ih =>
    have shift : entries ++ pair :: rest = entries ++ [pair] ++ rest := by simp
    have fresh : pair.1 ∉ keys entries := by
      intro mem
      rw [keys, List.map_append] at distinct
      exact (List.nodup_append.1 distinct).2.2 _ mem _ List.mem_cons_self rfl
    rw [List.foldl_cons, insert_of_notMem _ fresh, ih (shift ▸ distinct), ← shift]

/-- Pairs with distinct keys are a map as they are. -/
theorem ofList_of_nodup [BEq κ] [LawfulBEq κ] {pairs : List (κ × ν)}
    (distinct : (keys pairs).Nodup) : ofList pairs = pairs := by
  have built := foldl_insert_of_nodup (List.nil_append pairs ▸ distinct)
  rwa [List.nil_append] at built

/-! ## Values are those that were set -/

/-- The value of a key is the one set last. Keys of a type without a lawful equality have to be
such that no other key is taken for one of them. -/
theorem get?_insert [BEq κ] {key other : κ} (settled : ∀ k, (k == key) = true ↔ k = key)
    (settledOther : ∀ k, (k == other) = true ↔ k = other) (entries : List (κ × ν)) (value : ν) :
    get? (insert entries key value) other =
      if key == other then some value else get? entries other := by
  induction entries with
  | nil => rfl
  | cons entry rest ih =>
    unfold insert
    split
    · rename_i same
      rw [get?, get?, (settled _).1 same]
      split <;> rfl
    · rename_i differ
      rw [get?, get?, ih]
      split
      · rename_i isOther
        rw [if_neg]
        intro same
        exact differ ((settled _).2 (((settledOther _).1 isOther).trans
          ((settledOther _).1 same).symm))
      · rfl

theorem snd_mem_insert [BEq κ] {entries : List (κ × ν)} {key : κ} {value : ν} {entry : κ × ν}
    (member : entry ∈ insert entries key value) : entry ∈ entries ∨ entry.2 = value := by
  induction entries with
  | nil => exact .inr (by simpa [insert] using congrArg Prod.snd (List.mem_singleton.1 member))
  | cons first rest ih =>
    unfold insert at member
    split at member
    · rcases List.mem_cons.1 member with rfl | later
      · exact .inr rfl
      · exact .inl (List.mem_cons_of_mem _ later)
    · rcases List.mem_cons.1 member with rfl | later
      · exact .inl List.mem_cons_self
      · exact (ih later).imp_left (List.mem_cons_of_mem _)

/-- Whatever holds of the values set in turn holds of the values of the map. -/
theorem forall_ofList [BEq κ] (good : ν → Prop) {pairs : List (κ × ν)}
    (holds : ∀ pair ∈ pairs, good pair.2) : ∀ entry ∈ ofList pairs, good entry.2 := by
  refine List.foldlRecOn (motive := fun entries : List (κ × ν) => ∀ entry ∈ entries, good entry.2)
    pairs _ (by simp) fun entries before pair among entry member => ?_
  rcases snd_mem_insert member with old | same
  · exact before entry old
  · exact same ▸ holds pair among

end Keyed

end ConstrainedDecoding
