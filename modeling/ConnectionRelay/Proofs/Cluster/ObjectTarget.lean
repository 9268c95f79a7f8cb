/-
  ConnectionRelay.Proofs.Cluster.ObjectTarget
  ───────────────────────────────────────────
  **REQUESTS FOR OBJECTS OF ANY KIND.**

  The place of an object is put together from its type, its namespace, if it has one, and
  its name.  For a type and names that a cluster accepts all of it can stand in a target, so
  the request that replaces the object can be sent.  Main statements:

    • `ApiResource.path_ofType` — the path of all objects of a type,
    • `Client.replaceRequest?_placeOf` — the request that replaces one of them.
-/
import ConnectionRelay.Cluster.ApiResource
import ConnectionRelay.Proofs.Cluster.Target

namespace ConnectionRelay.Cluster

/-! ## §1. Valid types. -/

/-- The version of a type that a cluster accepts: a version alone, or a group and a version. -/
inductive IsApiVersion : String → Prop where
  | core (version : String) (h : isName version = true) : IsApiVersion version
  | grouped (group version : String) (hgroup : isName group = true)
      (hversion : isName version = true) : IsApiVersion (group ++ "/" ++ version)

/-- A letter, a digit or a hyphen. -/
def isKindChar (c : Char) : Bool := c.isAlphanum || c == '-'

/-- May it be a kind? -/
def isKind (s : String) : Bool :=
  s ≠ "" && s.toList.all isKindChar && decide (s.length ≤ 63)

theorem slash_of_isNameChar {c : Char} (h : isNameChar c = true) : c ≠ '/' := by
  rintro rfl
  revert h
  decide

/-! ## §2. The path of a type. -/

/-- Where the objects of a type version are: those without a group have a place of their own. -/
def rootOf (apiVersion : String) : String :=
  if '/' ∈ apiVersion.toList then "/apis/" else "/api/"

/-- The part of a path that says the namespace, if there is one. -/
def scopeOf : Option String → String
  | none => ""
  | some ns => "namespaces/" ++ ns ++ "/"

/-- The path of an object. -/
def placeOf (type : TypeReference) (ns : Option String) (name : String) : String :=
  rootOf type.apiVersion ++ type.apiVersion ++ "/" ++ scopeOf ns ++ plural type.kind ++ "/" ++ name

namespace ApiResource

theorem ofType_core {version kind : String} (h : isName version = true) :
    ofType ⟨version, kind⟩ = ⟨"", version, kind⟩ := by
  obtain ⟨-, hchars, -⟩ := isName_iff.1 h
  have hrest : version.toList.dropWhile (· ≠ '/') = [] :=
    dropWhile_of_forall fun c hc => by simpa using slash_of_isNameChar (hchars c hc)
  simp only [ofType, hrest]

theorem ofType_grouped {group version kind : String} (h : isName group = true) :
    ofType ⟨group ++ "/" ++ version, kind⟩ = ⟨group, version, kind⟩ := by
  obtain ⟨-, hchars, -⟩ := isName_iff.1 h
  -- the group has no slash of its own, so it ends at the first one
  have htext : (group ++ "/" ++ version).toList = group.toList ++ '/' :: version.toList := by simp
  have hgroup : ∀ c ∈ group.toList, (c ≠ '/' : Bool) = true := fun c hc => by
    simpa using slash_of_isNameChar (hchars c hc)
  have hhead : (group.toList ++ '/' :: version.toList).takeWhile (· ≠ '/') = group.toList := by
    rw [List.takeWhile_append_of_pos hgroup]; simp
  have hrest : (group.toList ++ '/' :: version.toList).dropWhile (· ≠ '/')
      = '/' :: version.toList := by
    rw [List.dropWhile_append_of_pos hgroup]; simp
  simp only [ofType, htext, hhead, hrest, String.ofList_toList]

/-- **The path of all objects of a type**, in a namespace or in the whole cluster. -/
theorem path_ofType {type : TypeReference} (h : IsApiVersion type.apiVersion)
    (ns : Option String) :
    (ofType type).path ns
      = rootOf type.apiVersion ++ type.apiVersion ++ "/" ++ scopeOf ns
        ++ Cluster.plural type.kind := by
  obtain ⟨apiVersion, kind⟩ := type
  have h : IsApiVersion apiVersion := h
  unfold path plural rootOf
  cases h with
  | core version h =>
      obtain ⟨-, hchars, -⟩ := isName_iff.1 h
      have hslash : '/' ∉ apiVersion.toList := fun hmem =>
        slash_of_isNameChar (hchars _ hmem) rfl
      rw [ofType_core h, if_neg hslash]
      cases ns <;> rfl
  | grouped group version hgroup hversion =>
      obtain ⟨hne, -, -⟩ := isName_iff.1 hgroup
      have hslash : '/' ∈ (group ++ "/" ++ version).toList := by simp
      have hversion : (ApiResource.mk group version kind).apiVersion = group ++ "/" ++ version :=
        if_neg hne
      rw [ofType_grouped hgroup, if_pos hslash, hversion, if_neg hne]
      cases ns <;> rfl

end ApiResource

/-! ## §3. Characters and sizes. -/

theorem isPathChar_toLower {c : Char} (h : isKindChar c = true) : isPathChar c.toLower = true := by
  -- all such characters are among the first 128, which can be gone through
  have hall : ∀ n < 128, isKindChar (Char.ofNat n) = true →
      isPathChar (Char.ofNat n).toLower = true := by
    decide
  have hsmall : c.toNat < 128 := by
    have hcases : ((c.isUpper || c.isLower || c.isDigit) || c == '-') = true := h
    simp only [Bool.or_eq_true, beq_iff_eq] at hcases
    rcases hcases with ((hupper | hlower) | hdigit) | rfl
    · have hbounds : 'A'.toNat ≤ c.toNat ∧ c.toNat ≤ 'Z'.toNat := of_decide_eq_true hupper
      exact Nat.lt_of_le_of_lt hbounds.2 (by decide)
    · have hbounds : (decide ('a'.toNat ≤ c.toNat) && decide (c.toNat ≤ 'z'.toNat)) = true := hlower
      exact Nat.lt_of_le_of_lt (of_decide_eq_true (Bool.and_eq_true_iff.1 hbounds).2) (by decide)
    · exact Nat.lt_of_le_of_lt (Char.isDigit_iff_toNat.1 hdigit).2 (by decide)
    · decide
  have hc := hall c.toNat hsmall
  rw [Char.ofNat_toNat] at hc
  exact hc h

theorem isPathChar_of_mem_pluralOfChars {word : List Char}
    (hword : ∀ c ∈ word, isPathChar c = true) :
    ∀ c ∈ pluralOfChars word, isPathChar c = true := by
  have hends : ∀ c ∈ ['e', 's'], isPathChar c = true := List.all_eq_true.1 (by decide)
  have hies : ∀ c ∈ ['i', 'e', 's'], isPathChar c = true := List.all_eq_true.1 (by decide)
  have hs : ∀ c ∈ ['s'], isPathChar c = true := List.all_eq_true.1 (by decide)
  intro c hc
  unfold pluralOfChars at hc
  simp only at hc
  split at hc
  · exact (List.mem_append.1 hc).elim (hword c) (hends c)
  · split at hc
    · exact (List.mem_append.1 hc).elim (fun h => hword c (List.dropLast_subset _ h)) (hies c)
    · exact (List.mem_append.1 hc).elim (hword c) (hs c)

theorem length_pluralOfChars (word : List Char) :
    (pluralOfChars word).length ≤ word.length + 3 := by
  unfold pluralOfChars
  simp only
  split
  · simp
  · split
    · simp
    · simp

/-- The plural of a kind: a short word, or made of the kind in lower case. -/
theorem plural_cases (kind : String) :
    plural kind = "nodes" ∨ plural kind = "pods"
      ∨ plural kind = String.ofList (kind.toList.map Char.toLower)
      ∨ plural kind = String.ofList (pluralOfChars (kind.toList.map Char.toLower)) := by
  unfold plural
  simp only [String.toList_ofList]
  split
  · exact .inr (.inr (.inl rfl))
  · split
    · exact .inl rfl
    · split
      · exact .inr (.inl rfl)
      · exact .inr (.inr (.inr rfl))

theorem isKind_iff {s : String} :
    isKind s = true ↔ s ≠ "" ∧ (∀ c ∈ s.toList, isKindChar c = true) ∧ s.length ≤ 63 := by
  simp [isKind, and_assoc]

theorem isPathChar_of_mem_plural {kind : String} (h : isKind kind = true) :
    ∀ c ∈ (plural kind).toList, isPathChar c = true := by
  obtain ⟨-, hchars, -⟩ := isKind_iff.1 h
  have hword : ∀ c ∈ kind.toList.map Char.toLower, isPathChar c = true :=
    List.forall_mem_map.2 fun c hc => isPathChar_toLower (hchars c hc)
  rcases plural_cases kind with heq | heq | heq | heq
  · rw [heq]
    exact List.all_eq_true.1 (by decide)
  · rw [heq]
    exact List.all_eq_true.1 (by decide)
  · rw [heq, String.toList_ofList]
    exact hword
  · rw [heq, String.toList_ofList]
    exact isPathChar_of_mem_pluralOfChars hword

/-- No character takes more than four bytes. -/
theorem utf8ByteSize_ofList_le (cs : List Char) :
    (String.ofList cs).utf8ByteSize ≤ 4 * cs.length := by
  induction cs with
  | nil => decide
  | cons c cs ih =>
      have hsize := c.utf8Size_le_four
      rw [String.ofList_cons, String.utf8ByteSize_append, String.utf8ByteSize_singleton,
        List.length_cons]
      omega

theorem utf8ByteSize_plural_le {kind : String} (h : isKind kind = true) :
    (plural kind).utf8ByteSize ≤ 264 := by
  obtain ⟨-, -, hlength⟩ := isKind_iff.1 h
  have hword : (kind.toList.map Char.toLower).length ≤ 63 := by
    rw [List.length_map, String.length_toList]
    exact hlength
  rcases plural_cases kind with heq | heq | heq | heq
  · rw [heq]
    decide
  · rw [heq]
    decide
  · have hsize := utf8ByteSize_ofList_le (kind.toList.map Char.toLower)
    rw [heq]
    omega
  · have hsize := utf8ByteSize_ofList_le (pluralOfChars (kind.toList.map Char.toLower))
    have hplural := length_pluralOfChars (kind.toList.map Char.toLower)
    rw [heq]
    omega

theorem IsApiVersion.isPathChar {apiVersion : String} (h : IsApiVersion apiVersion) :
    ∀ c ∈ apiVersion.toList, isPathChar c = true := by
  cases h with
  | core version h =>
      exact fun c hc => isPathChar_of_isNameChar ((isName_iff.1 h).2.1 c hc)
  | grouped group version hgroup hversion =>
      intro c hc
      simp only [String.toList_append, List.mem_append] at hc
      rcases hc with (hc | hc) | hc
      · exact isPathChar_of_isNameChar ((isName_iff.1 hgroup).2.1 c hc)
      · exact List.all_eq_true.1 (by decide) c hc
      · exact isPathChar_of_isNameChar ((isName_iff.1 hversion).2.1 c hc)

theorem IsApiVersion.utf8ByteSize_le {apiVersion : String} (h : IsApiVersion apiVersion) :
    apiVersion.utf8ByteSize ≤ 507 := by
  cases h with
  | core version h =>
      obtain ⟨-, -, hsize⟩ := isName_iff.1 h
      omega
  | grouped group version hgroup hversion =>
      obtain ⟨-, -, hgroupSize⟩ := isName_iff.1 hgroup
      obtain ⟨-, -, hversionSize⟩ := isName_iff.1 hversion
      have hslash : "/".utf8ByteSize = 1 := by decide
      rw [String.utf8ByteSize_append, String.utf8ByteSize_append, hslash]
      omega

theorem isPathChar_of_mem_scopeOf {ns : Option String}
    (h : ∀ n, ns = some n → isName n = true) :
    ∀ c ∈ (scopeOf ns).toList, isPathChar c = true := by
  intro c hc
  cases ns with
  | none =>
      have hempty : (scopeOf none).toList = [] := rfl
      rw [hempty] at hc
      cases hc
  | some n =>
      simp only [scopeOf, String.toList_append, List.mem_append] at hc
      rcases hc with (hc | hc) | hc
      · exact List.all_eq_true.1 (by decide) c hc
      · exact isPathChar_of_isNameChar ((isName_iff.1 (h n rfl)).2.1 c hc)
      · exact List.all_eq_true.1 (by decide) c hc

theorem utf8ByteSize_scopeOf_le {ns : Option String} (h : ∀ n, ns = some n → isName n = true) :
    (scopeOf ns).utf8ByteSize ≤ 265 := by
  cases ns with
  | none => decide
  | some n =>
      obtain ⟨-, -, hsize⟩ := isName_iff.1 (h n rfl)
      have hbefore : "namespaces/".utf8ByteSize = 11 := by decide
      have hafter : "/".utf8ByteSize = 1 := by decide
      rw [scopeOf, String.utf8ByteSize_append, String.utf8ByteSize_append, hbefore, hafter]
      omega

/-! ## §4. Places. -/

/-- A type and names that a cluster accepts. -/
structure IsPlace (type : TypeReference) (ns : Option String) (name : String) : Prop where
  version : IsApiVersion type.apiVersion
  kind : isKind type.kind = true
  ns : ∀ n, ns = some n → isName n = true
  name : isName name = true

namespace IsPlace

variable {type : TypeReference} {ns : Option String} {name : String}

/-- The characters of a place can stand in a target. -/
theorem isPathChar (h : IsPlace type ns name) :
    ∀ c ∈ (placeOf type ns name).toList, isPathChar c = true := by
  have hroot : ∀ c ∈ (rootOf type.apiVersion).toList, Cluster.isPathChar c = true := by
    unfold rootOf
    split <;> exact List.all_eq_true.1 (by decide)
  have hslash : ∀ c ∈ "/".toList, Cluster.isPathChar c = true := List.all_eq_true.1 (by decide)
  have hname := (isName_iff.1 h.name).2.1
  intro c hc
  simp only [placeOf, String.toList_append, List.mem_append] at hc
  rcases hc with (((((hc | hc) | hc) | hc) | hc) | hc) | hc
  · exact hroot c hc
  · exact h.version.isPathChar c hc
  · exact hslash c hc
  · exact isPathChar_of_mem_scopeOf h.ns c hc
  · exact isPathChar_of_mem_plural h.kind c hc
  · exact hslash c hc
  · exact isPathChar_of_isNameChar (hname c hc)

/-- No place is long. -/
theorem utf8ByteSize_le (h : IsPlace type ns name) :
    (placeOf type ns name).utf8ByteSize ≤ 1297 := by
  have hslash : "/".utf8ByteSize = 1 := by decide
  have hroot : (rootOf type.apiVersion).utf8ByteSize ≤ 6 := by
    unfold rootOf
    split <;> decide
  have hversion := h.version.utf8ByteSize_le
  have hscope := utf8ByteSize_scopeOf_le h.ns
  have hplural := utf8ByteSize_plural_le h.kind
  have hname := (isName_iff.1 h.name).2.2
  simp only [placeOf, String.utf8ByteSize_append, hslash]
  omega

end IsPlace

/-! ## §5. The request that replaces an object. -/

/-- The request that replaces an object of any kind. -/
def replaceRequest (type : TypeReference) (ns : Option String) (name : String) (body : Json) :
    Request :=
  ⟨.put, ⟨placeOf type ns name, some Client.managerQuery⟩, some body⟩

/-- **The request that replaces an object** can be sent. -/
theorem Client.replaceRequest?_placeOf {type : TypeReference} {ns : Option String} {name : String}
    (h : IsPlace type ns name) (body : Json) :
    replaceRequest? ((ApiResource.ofType type).path ns) name body
      = some (replaceRequest type ns name body) := by
  have hsize : (placeOf type ns name ++ "?" ++ managerQuery).utf8ByteSize ≤ targetLimit := by
    have hplace := h.utf8ByteSize_le
    rw [utf8ByteSize_query, targetLimit]
    omega
  have hparse := Target.parse?_query hsize h.isPathChar isQueryChar_of_mem_managerQuery
  rw [replaceRequest?, if_neg (isName_iff.1 h.name).1, append_writeQuery,
    ApiResource.path_ofType h.version]
  rw [placeOf] at hparse
  rw [hparse]
  rfl

example : placeOf ⟨"example.org/v1", "Policy"⟩ (some "team-a") "db"
    = "/apis/example.org/v1/namespaces/team-a/policies/db" := by
  decide +kernel

end ConnectionRelay.Cluster
