/-
  ConnectionRelay.Proofs.Store.MemoryKey
  ──────────────────────────────────────
  **KEYS OF SECRETS IN MEMORY.**

  A store in memory keeps the secret of an owner under the store config, the namespace of an
  owner that has one, and the name of the secret, put together with slashes.  Nothing keeps
  slashes out of these parts, so a key need not say where one of them ends.  Main statement:

    • `keyFor_eq_iff` — where the parts that have to end at a slash have none in them, owners
      with the same key have the same parts.
-/
import ConnectionRelay.Store.Memory

namespace ConnectionRelay

/-! ## §1. Texts with a slash between them. -/

/-- What stands before the first slash, and what stands after it. -/
theorem eq_of_slash {a a' b b' : List Char} (ha : '/' ∉ a) (ha' : '/' ∉ a')
    (h : a ++ '/' :: b = a' ++ '/' :: b') : a = a' ∧ b = b' := by
  -- on the first text; where it ends the second has to end as well
  induction a generalizing a' with
  | nil =>
      cases a' with
      | nil => exact ⟨rfl, (List.cons.inj h).2⟩
      | cons c cs => exact absurd (List.mem_cons.2 (.inl (List.cons.inj h).1)) ha'
  | cons c cs ih =>
      cases a' with
      | nil => exact absurd (List.mem_cons.2 (.inl (List.cons.inj h).1.symm)) ha
      | cons c' cs' =>
          obtain ⟨rfl, hrest⟩ := List.cons.inj h
          obtain ⟨rfl, rfl⟩ := ih (fun hc => ha (List.mem_cons_of_mem _ hc))
            (fun hc => ha' (List.mem_cons_of_mem _ hc)) hrest
          exact ⟨rfl, rfl⟩

/-- Two texts with a slash between them, of which the first has none. -/
theorem eq_of_joined {a a' b b' : String} (ha : '/' ∉ a.toList) (ha' : '/' ∉ a'.toList)
    (h : a ++ "/" ++ b = a' ++ "/" ++ b') : a = a' ∧ b = b' := by
  have hlist : a.toList ++ '/' :: b.toList = a'.toList ++ '/' :: b'.toList := by
    have htext := congrArg String.toList h
    simpa [String.toList_append] using htext
  obtain ⟨hl, hr⟩ := eq_of_slash ha ha' hlist
  exact ⟨String.toList_inj.1 hl, String.toList_inj.1 hr⟩

/-- A text without a slash is not put together with one. -/
theorem joined_ne {a b text : String} (h : '/' ∉ text.toList) : a ++ "/" ++ b ≠ text := by
  rintro rfl
  refine h ?_
  simp [String.toList_append]

/-! ## §2. Keys. -/

namespace MemoryStore

/-- The key of an owner's secret after the store config. -/
def restFor (o : Owner) (d : Destination) : String :=
  match o.ns with
  | some ns => ns ++ "/" ++ d.name
  | none => d.name

/-- The key of an owner's secret. -/
def keyFor (o : Owner) (d : Destination) : String :=
  d.storeConfig defaultStoreConfig ++ "/" ++ restFor o d

variable {o o' : Owner} {d d' : Destination}

theorem key?_eq (h : o.destination = some d) : key? o = some (keyFor o d) := by
  unfold key? keyFor restFor
  rw [h]
  cases o.ns with
  | none => rfl
  | some ns => simp [String.append_assoc]

/-- The parts of a key that have to end at a slash have none in them. -/
structure Unslashed (o : Owner) (d : Destination) : Prop where
  config : '/' ∉ (d.storeConfig defaultStoreConfig).toList
  ns : ∀ ns, o.ns = some ns → '/' ∉ ns.toList
  /-- Behind a namespace the name is all that is left; without one it has to differ from a
  namespace with a name behind it. -/
  name : o.ns = none → '/' ∉ d.name.toList

/-- Two owners publish to the same secret: of the same name, in the same namespace or both in
none, and in the same store config. -/
structure SameSecret (o : Owner) (d : Destination) (o' : Owner) (d' : Destination) : Prop where
  config : d.storeConfig defaultStoreConfig = d'.storeConfig defaultStoreConfig
  ns : o.ns = o'.ns
  name : d.name = d'.name

/-- After the same store config, a namespace and a name can be read off the key. -/
theorem eq_of_restFor (h : Unslashed o d) (h' : Unslashed o' d')
    (hrest : restFor o d = restFor o' d') : o.ns = o'.ns ∧ d.name = d'.name := by
  unfold restFor at hrest
  -- a key with a namespace has a slash more than one without
  cases hsome : o.ns with
  | none =>
      cases hsome' : o'.ns with
      | none =>
          rw [hsome, hsome'] at hrest
          exact ⟨rfl, hrest⟩
      | some ns' =>
          rw [hsome, hsome'] at hrest
          exact absurd hrest.symm (joined_ne (h.name hsome))
  | some ns =>
      cases hsome' : o'.ns with
      | none =>
          rw [hsome, hsome'] at hrest
          exact absurd hrest (joined_ne (h'.name hsome'))
      | some ns' =>
          rw [hsome, hsome'] at hrest
          obtain ⟨hns, hname⟩ := eq_of_joined (h.ns ns hsome) (h'.ns ns' hsome') hrest
          exact ⟨congrArg some hns, hname⟩

/-- **Keys without slashes in their parts.** They are the same for the same secret only. -/
theorem keyFor_eq_iff (h : Unslashed o d) (h' : Unslashed o' d') :
    keyFor o d = keyFor o' d' ↔ SameSecret o d o' d' := by
  constructor
  · intro hkey
    obtain ⟨hconfig, hrest⟩ := eq_of_joined h.config h'.config hkey
    obtain ⟨hns, hname⟩ := eq_of_restFor h h' hrest
    exact ⟨hconfig, hns, hname⟩
  · intro hsame
    unfold keyFor restFor
    rw [hsame.config, hsame.ns, hsame.name]

end MemoryStore

end ConnectionRelay
