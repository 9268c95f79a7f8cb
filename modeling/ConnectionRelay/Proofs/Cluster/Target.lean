/-
  ConnectionRelay.Proofs.Cluster.Target
  ─────────────────────────────────────
  **REQUESTS FOR VALID NAMES.**

  A cluster accepts names of lower-case letters, digits, hyphens and points.  None of
  these has a meaning in a target, so the three requests for a secret of a valid name in
  a namespace of a valid name can be sent, and the server finds the secret under
  `Secret.place`.
-/
import ConnectionRelay.Cluster.Client
import ConnectionRelay.Cluster.Secret

namespace ConnectionRelay.Cluster

/-! ## §1. Valid names. -/

/-- A lower-case letter, a digit, a hyphen or a point. -/
def isNameChar (c : Char) : Bool :=
  (97 ≤ c.toNat && c.toNat ≤ 122) || (48 ≤ c.toNat && c.toNat ≤ 57) || c == '-' || c == '.'

/-- May it be the name of an object or of a namespace? -/
def isName (s : String) : Bool :=
  s ≠ "" && s.toList.all isNameChar && decide (s.utf8ByteSize ≤ 253)

/-- The path under which a server keeps a secret. -/
def Secret.place (ns name : String) : String := Secret.path ns ++ "/" ++ name

theorem isPathChar_of_isNameChar {c : Char} (h : isNameChar c = true) : isPathChar c = true := by
  simp only [isNameChar, Bool.or_eq_true, Bool.and_eq_true, decide_eq_true_eq, beq_iff_eq] at h
  rcases h with ((h | h) | rfl) | rfl
  · simp [isPathChar]; omega
  · simp [isPathChar]; omega
  · decide
  · decide

theorem ne_of_isPathChar {c : Char} (h : isPathChar c = true) : c ≠ '#' ∧ c ≠ '?' := by
  constructor <;> rintro rfl <;> revert h <;> decide

theorem ne_of_isQueryChar {c : Char} (h : isQueryChar c = true) : c ≠ '#' := by
  rintro rfl; revert h; decide

/-- A valid name is short, is not empty, and can stand in a path. -/
theorem isName_iff {s : String} :
    isName s = true ↔
      s ≠ "" ∧ (∀ c ∈ s.toList, isNameChar c = true) ∧ s.utf8ByteSize ≤ 253 := by
  simp [isName, and_assoc]

/-! ## §2. Targets of plain characters. -/

theorem takeWhile_of_forall {p : Char → Bool} {cs : List Char} (h : ∀ c ∈ cs, p c = true) :
    cs.takeWhile p = cs := by
  have := @List.takeWhile_append_of_pos _ p cs [] h
  simpa using this

theorem dropWhile_of_forall {p : Char → Bool} {cs : List Char} (h : ∀ c ∈ cs, p c = true) :
    cs.dropWhile p = [] := by
  have := @List.dropWhile_append_of_pos _ p cs [] h
  simpa using this

namespace Target

theorem parse?_path {text : String} (hsize : text.utf8ByteSize ≤ targetLimit)
    (hchars : ∀ c ∈ text.toList, isPathChar c = true) :
    parse? text = some ⟨text, none⟩ := by
  -- neither of the marks that end a path stands in the text
  have hmark : text.toList.takeWhile (· ≠ '#') = text.toList :=
    takeWhile_of_forall fun c hc => by simpa using (ne_of_isPathChar (hchars c hc)).1
  have hquestion : ∀ c ∈ text.toList, (c ≠ '?' : Bool) = true := fun c hc => by
    simpa using (ne_of_isPathChar (hchars c hc)).2
  have hpath : text.toList.takeWhile (· ≠ '?') = text.toList := takeWhile_of_forall hquestion
  have hrest : text.toList.dropWhile (· ≠ '?') = [] := dropWhile_of_forall hquestion
  have hall : text.toList.all isPathChar = true := by simpa using hchars
  unfold parse?
  simp only [hmark, hpath, hrest, hall]
  rw [if_neg (by omega)]
  simp

theorem parse?_query {path query : String}
    (hsize : (path ++ "?" ++ query).utf8ByteSize ≤ targetLimit)
    (hpath : ∀ c ∈ path.toList, isPathChar c = true)
    (hquery : ∀ c ∈ query.toList, isQueryChar c = true) :
    parse? (path ++ "?" ++ query) = some ⟨path, some query⟩ := by
  have htext : (path ++ "?" ++ query).toList = path.toList ++ '?' :: query.toList := by
    simp
  -- the first question mark is the one between the parts
  have hmark : (path.toList ++ '?' :: query.toList).takeWhile (· ≠ '#')
      = path.toList ++ '?' :: query.toList :=
    takeWhile_of_forall fun c hc => by
      rcases List.mem_append.1 hc with hc | hc
      · simpa using (ne_of_isPathChar (hpath c hc)).1
      · rcases List.mem_cons.1 hc with rfl | hc
        · decide
        · simpa using ne_of_isQueryChar (hquery c hc)
  have hbefore : ∀ c ∈ path.toList, (c ≠ '?' : Bool) = true := fun c hc => by
    simpa using (ne_of_isPathChar (hpath c hc)).2
  have hhead : (path.toList ++ '?' :: query.toList).takeWhile (· ≠ '?') = path.toList := by
    rw [List.takeWhile_append_of_pos hbefore]; simp
  have hrest : (path.toList ++ '?' :: query.toList).dropWhile (· ≠ '?') = '?' :: query.toList := by
    rw [List.dropWhile_append_of_pos hbefore]; simp
  have hall : path.toList.all isPathChar = true := by simpa using hpath
  have hallq : query.toList.all isQueryChar = true := by simpa using hquery
  unfold parse?
  simp only [htext, hmark, hhead, hrest, hall, hallq]
  rw [if_neg (by omega)]
  simp

end Target

/-! ## §3. The three requests for a secret. -/

theorem isPathChar_of_mem_path {ns : String} (hns : isName ns = true) {c : Char}
    (hc : c ∈ (Secret.path ns).toList) : isPathChar c = true := by
  obtain ⟨-, hchars, -⟩ := isName_iff.1 hns
  unfold Secret.path at hc
  simp only [String.toList_append, List.mem_append] at hc
  have hbefore : "/api/v1/namespaces/".toList.all isPathChar = true := by decide
  have hafter : "/secrets".toList.all isPathChar = true := by decide
  rcases hc with (hc | hc) | hc
  · exact List.all_eq_true.1 hbefore c hc
  · exact isPathChar_of_isNameChar (hchars c hc)
  · exact List.all_eq_true.1 hafter c hc

theorem isPathChar_of_mem_place {ns name : String} (hns : isName ns = true)
    (hname : isName name = true) {c : Char} (hc : c ∈ (Secret.place ns name).toList) :
    isPathChar c = true := by
  obtain ⟨-, hchars, -⟩ := isName_iff.1 hname
  unfold Secret.place at hc
  simp only [String.toList_append, List.mem_append] at hc
  have hslash : "/".toList.all isPathChar = true := by decide
  rcases hc with (hc | hc) | hc
  · exact isPathChar_of_mem_path hns hc
  · exact List.all_eq_true.1 hslash c hc
  · exact isPathChar_of_isNameChar (hchars c hc)

theorem utf8ByteSize_path (ns : String) :
    (Secret.path ns).utf8ByteSize = ns.utf8ByteSize + 27 := by
  have h1 : "/api/v1/namespaces/".utf8ByteSize = 19 := by decide
  have h2 : "/secrets".utf8ByteSize = 8 := by decide
  unfold Secret.path
  simp only [String.utf8ByteSize_append, h1, h2]
  omega

theorem utf8ByteSize_place (ns name : String) :
    (Secret.place ns name).utf8ByteSize = ns.utf8ByteSize + name.utf8ByteSize + 28 := by
  have h1 : "/".utf8ByteSize = 1 := by decide
  unfold Secret.place
  simp only [String.utf8ByteSize_append, utf8ByteSize_path, h1]
  omega

namespace Client

/-- The query of a write, without its question mark. -/
def managerQuery : String := "&fieldManager=" ++ fieldManager

theorem append_writeQuery (path : String) :
    path ++ writeQuery = path ++ "?" ++ managerQuery := by
  rw [String.append_assoc]
  rfl

theorem isQueryChar_of_mem_managerQuery : ∀ c ∈ managerQuery.toList, isQueryChar c = true := by
  have hall : managerQuery.toList.all isQueryChar = true := by decide
  exact List.all_eq_true.1 hall

theorem utf8ByteSize_query (path : String) :
    (path ++ "?" ++ managerQuery).utf8ByteSize = path.utf8ByteSize + 35 := by
  have h1 : ("?" ++ managerQuery).utf8ByteSize = 35 := by decide
  rw [String.append_assoc, String.utf8ByteSize_append, h1]

variable {ns name : String}

theorem readRequest?_place (hns : isName ns = true) (hname : isName name = true) :
    readRequest? (Secret.path ns) name = some ⟨.get, ⟨Secret.place ns name, none⟩, none⟩ := by
  obtain ⟨-, -, hns'⟩ := isName_iff.1 hns
  obtain ⟨hne, -, hname'⟩ := isName_iff.1 hname
  have hsize : (Secret.place ns name).utf8ByteSize ≤ targetLimit := by
    rw [utf8ByteSize_place, targetLimit]; omega
  have hparse := Target.parse?_path hsize fun c hc => isPathChar_of_mem_place hns hname hc
  -- two valid names are far too short for the limit of a target
  rw [readRequest?, if_neg hne]
  rw [Secret.place] at hparse ⊢
  rw [hparse]
  rfl

theorem createRequest?_path (hns : isName ns = true) (body : Json) :
    createRequest? (Secret.path ns) body =
      some ⟨.post, ⟨Secret.path ns, some managerQuery⟩, some body⟩ := by
  obtain ⟨-, -, hns'⟩ := isName_iff.1 hns
  have hsize : (Secret.path ns ++ "?" ++ managerQuery).utf8ByteSize ≤ targetLimit := by
    rw [utf8ByteSize_query, utf8ByteSize_path, targetLimit]; omega
  rw [createRequest?, append_writeQuery, Target.parse?_query hsize
    (fun c hc => isPathChar_of_mem_path hns hc) isQueryChar_of_mem_managerQuery]
  rfl

theorem replaceRequest?_place (hns : isName ns = true) (hname : isName name = true)
    (body : Json) :
    replaceRequest? (Secret.path ns) name body =
      some ⟨.put, ⟨Secret.place ns name, some managerQuery⟩, some body⟩ := by
  obtain ⟨-, -, hns'⟩ := isName_iff.1 hns
  obtain ⟨hne, -, hname'⟩ := isName_iff.1 hname
  have hsize : (Secret.place ns name ++ "?" ++ managerQuery).utf8ByteSize ≤ targetLimit := by
    rw [utf8ByteSize_query, utf8ByteSize_place, targetLimit]; omega
  have hparse := Target.parse?_query hsize
    (fun c hc => isPathChar_of_mem_place hns hname hc) isQueryChar_of_mem_managerQuery
  rw [replaceRequest?, if_neg hne, append_writeQuery]
  rw [Secret.place] at hparse ⊢
  rw [hparse]
  rfl

end Client

end ConnectionRelay.Cluster
