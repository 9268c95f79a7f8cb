/-
  ConnectionRelay.Proofs.Pipeline.ListedKeys
  ──────────────────────────────────────────
  **THE KEYS OF A SETTING ARE READ BACK AS THEY WERE LISTED.**

  In a setting an allow-list is a text with commas.  Between two commas stands a key with
  blanks around it, or nothing but blanks.  `Lists` says that a text lists certain keys in
  this way, and does not cut or trim anything; the reader finds exactly these keys.  An
  allow-list that is read as empty lets everything through, so it matters which texts list no
  key at all: those of commas and blanks.  Main statements:

    • `parseKeys_eq_iff` — the reader finds the keys that the text lists,
    • `lists_nil_iff` — which texts list no key,
    • `Config.allows_all_iff` — when the settings let every key through,
    • `listed_keys_read_back` — all this, and what a publisher with the settings writes.
-/
import ConnectionRelay.Config
import ConnectionRelay.Publisher

namespace ConnectionRelay

open Text

namespace Allowlist

/-! ## §1. Lists of keys. -/

/-- A key that can be listed: it holds no comma, and neither begins nor ends with a blank. -/
structure IsKey (key : String) : Prop where
  nonempty : key.toList ≠ []
  noComma : ',' ∉ key.toList
  head : ∀ c ∈ key.toList.head?, isBlank c = false
  last : ∀ c ∈ key.toList.getLast?, isBlank c = false

/-- These segments hold these keys: each segment is a key with blanks around it, or blank. -/
inductive Hold : List (List Char) → List String → Prop where
  | nil : Hold [] []
  | blank {s : List Char} {segments : List (List Char)} {keys : List String} :
      AllBlank s → Hold segments keys → Hold (s :: segments) keys
  | key {left right : List Char} {key : String} {segments : List (List Char)}
      {keys : List String} :
      AllBlank left → AllBlank right → Hold segments keys →
        Hold ((left ++ key.toList ++ right) :: segments) (key :: keys)

/-- The text is a list of these keys, with commas between the segments that hold them. -/
def Renders (keys : List String) (text : String) : Prop :=
  ∃ segments, Hold segments keys ∧ text.toList = join ',' segments

/-- The text lists these keys. -/
structure Lists (text : String) (keys : List String) : Prop where
  plain : ∀ key ∈ keys, IsKey key
  rendered : Renders keys text

/-- The keys with commas between them. -/
def written (keys : List String) : String := String.ofList (join ',' (keys.map String.toList))

section

variable {segments : List (List Char)} {keys : List String} {key : String} {text : String}

/-- What is read of segments. -/
def keysOf (segments : List (List Char)) : List String :=
  ((segments.map trim).filter fun key => !key.isEmpty).map String.ofList

theorem parseKeys_eq (text : String) : parseKeys text = keysOf (split ',' text.toList) := rfl

theorem keysOf_blank {s : List Char} (h : AllBlank s) :
    keysOf (s :: segments) = keysOf segments := by
  simp [keysOf, trim_eq_nil_iff.2 h]

theorem keysOf_key {s : List Char} (h : ¬ AllBlank s) :
    keysOf (s :: segments) = String.ofList (trim s) :: keysOf segments := by
  have hne : trim s ≠ [] := mt trim_eq_nil_iff.1 h
  simp [keysOf, hne]

/-! ## §2. Reading a list. -/

/-- Blanks around a key are not read with it. -/
theorem IsKey.trim_padded (h : IsKey key) {left right : List Char} (hleft : AllBlank left)
    (hright : AllBlank right) : trim (left ++ key.toList ++ right) = key.toList := by
  rw [Text.trim_padded hleft hright, trim_of_ends h.head h.last]

/-- The keys that segments hold are read of them. -/
theorem Hold.keysOf_eq (h : Hold segments keys) (hkeys : ∀ key ∈ keys, IsKey key) :
    keysOf segments = keys := by
  induction h with
  | nil => rfl
  | blank hblank _ ih => rw [keysOf_blank hblank, ih hkeys]
  | @key left right key segments keys hleft hright _ ih =>
      obtain ⟨hkey, hrest⟩ := List.forall_mem_cons.1 hkeys
      have htrim := hkey.trim_padded hleft hright
      have hnot : ¬ AllBlank (left ++ key.toList ++ right) := by
        rw [← trim_eq_nil_iff, htrim]
        exact hkey.nonempty
      rw [keysOf_key hnot, htrim, String.ofList_toList, ih hrest]

/-- No segment that holds a key holds a comma. -/
theorem Hold.noComma (h : Hold segments keys) (hkeys : ∀ key ∈ keys, IsKey key) :
    ∀ s ∈ segments, ',' ∉ s := by
  have hblank {s : List Char} (hs : AllBlank s) : ',' ∉ s := by
    intro hmem
    exact absurd (hs ',' hmem) (by decide)
  induction h with
  | nil => exact List.forall_mem_nil _
  | blank hs _ ih => exact List.forall_mem_cons.2 ⟨hblank hs, ih hkeys⟩
  | key hleft hright _ ih =>
      obtain ⟨hkey, hrest⟩ := List.forall_mem_cons.1 hkeys
      refine List.forall_mem_cons.2 ⟨?_, ih hrest⟩
      simp only [List.mem_append, hblank hleft, hkey.noComma, hblank hright, or_self,
        not_false_eq_true]

/-- Segments hold what is read of them. -/
theorem hold_keysOf (segments : List (List Char)) : Hold segments (keysOf segments) := by
  induction segments with
  | nil => exact .nil
  | cons s segments ih =>
      by_cases hs : AllBlank s
      · rw [keysOf_blank hs]
        exact .blank hs ih
      · obtain ⟨left, right, hleft, hright, hpadded⟩ := exists_padding s
        have hkey := @Hold.key left right (String.ofList (trim s)) segments _ hleft hright ih
        rw [String.toList_ofList, ← hpadded] at hkey
        rw [keysOf_key hs]
        exact hkey

/-- What is read of a segment without a comma can be listed. -/
theorem isKey_of_mem_keysOf (hsegments : ∀ s ∈ segments, ',' ∉ s) :
    ∀ key ∈ keysOf segments, IsKey key := by
  intro key hmem
  obtain ⟨cs, hcs, rfl⟩ := List.mem_map.1 hmem
  obtain ⟨htrimmed, hne⟩ := List.mem_filter.1 hcs
  obtain ⟨s, hs, rfl⟩ := List.mem_map.1 htrimmed
  obtain ⟨left, right, -, -, hpadded⟩ := exists_padding s
  have hcomma : ',' ∉ trim s := by
    intro hin
    refine hsegments s hs ?_
    rw [hpadded]
    exact List.mem_append_left _ (List.mem_append_right _ hin)
  refine ⟨?_, ?_, ?_, ?_⟩ <;> rw [String.toList_ofList]
  · simpa using hne
  · exact hcomma
  · exact isBlank_head_trim s
  · exact isBlank_last_trim s

/-- **The reader finds the keys that a text lists**, and every text lists the keys that the
reader finds. -/
theorem parseKeys_eq_iff : parseKeys text = keys ↔ Lists text keys := by
  constructor
  · rintro rfl
    exact ⟨isKey_of_mem_keysOf fun s hs => not_mem_of_mem_split hs,
      split ',' text.toList, hold_keysOf _, (join_split ',' _).symm⟩
  · rintro ⟨hkeys, segments, hhold, htext⟩
    rw [parseKeys_eq, htext]
    by_cases hnil : segments = []
    · subst hnil
      cases hhold
      rfl
    · rw [split_join hnil (hhold.noComma hkeys)]
      exact hhold.keysOf_eq hkeys

theorem lists_parseKeys (text : String) : Lists text (parseKeys text) := parseKeys_eq_iff.1 rfl

/-- Keys with commas between them are a list of these keys. -/
theorem renders_written (keys : List String) : Renders keys (written keys) := by
  refine ⟨keys.map String.toList, ?_, String.toList_ofList⟩
  have hnone : AllBlank [] := List.forall_mem_nil _
  induction keys with
  | nil => exact .nil
  | cons key keys ih =>
      have hkey := @Hold.key [] [] key _ _ hnone hnone ih
      rwa [List.nil_append, List.append_nil] at hkey

/-! ## §3. Lists without a key. -/

/-- A text lists no key if it holds nothing but commas and blanks. -/
theorem lists_nil_iff :
    Lists text [] ↔ ∀ c ∈ text.toList, c = ',' ∨ isBlank c = true := by
  have hblank : Lists text [] ↔ ∀ s ∈ split ',' text.toList, AllBlank s := by
    rw [← parseKeys_eq_iff, parseKeys_eq, keysOf, List.map_eq_nil_iff, List.filter_eq_nil_iff,
      List.forall_mem_map]
    simp only [Bool.not_eq_true', Bool.not_eq_false, List.isEmpty_iff, trim_eq_nil_iff]
  have hjoin := join_split ',' text.toList
  rw [hblank]
  constructor
  · intro h c hc
    by_cases hcomma : c = ','
    · exact .inl hcomma
    · rw [← hjoin, mem_join_iff hcomma] at hc
      obtain ⟨s, hs, hmem⟩ := hc
      exact .inr (h s hs c hmem)
  · intro h s hs c hmem
    have hcomma : c ≠ ',' := by
      rintro rfl
      exact not_mem_of_mem_split hs hmem
    have hc : c ∈ text.toList := by
      rw [← hjoin, mem_join_iff hcomma]
      exact ⟨s, hs, hmem⟩
    exact (h c hc).resolve_left hcomma

/-- Listed keys let every key through only if there are none: a comma is never listed. -/
theorem allows_all_iff {a : Allowlist} (h : ∀ key ∈ a.keys, IsKey key) :
    (∀ key, a.allows key = true) ↔ a.keys = [] := by
  constructor
  · intro hall
    have hcomma : "," ∉ a.keys := fun hmem => (h "," hmem).noComma (by decide)
    simpa [allows, hcomma] using hall ","
  · intro hnil key
    simp [allows, hnil]

theorem allows_iff_mem {a : Allowlist} (h : a.keys ≠ []) :
    a.allows key = true ↔ key ∈ a.keys := by
  simp [allows, h]

theorem get?_restrict (a : Allowlist) (details : Details) (key : String) :
    (a.restrict details).get? key = if a.allows key = true then details.get? key else none :=
  Dict.get?_filterKeys ..

end

end Allowlist

/-! ## §4. The settings. -/

namespace Config

/-- The variable that lists the keys. -/
abbrev keysVariable : String := "CONNECTION_DETAILS_FILTER"

/-- The variable that lists the keys is not set, is no text, or lists no key. -/
inductive Unrestricted (env : Environment) : Prop where
  | unset (h : env.get? keysVariable = none)
  | noText {bytes : Bytes} (h : env.get? keysVariable = some bytes)
      (hbytes : bytes.toText? = none)
  | noKey {bytes : Bytes} {text : String} (h : env.get? keysVariable = some bytes)
      (hbytes : bytes.toText? = some text) (htext : ∀ c ∈ text.toList, c = ',' ∨ isBlank c = true)

variable {env : Environment} {text : String} {keys : List String}

theorem keys_of_lists (htext : env.text? keysVariable = some text)
    (h : Allowlist.Lists text keys) : (ofEnvironment env).allowlist.keys = keys := by
  have hallowlist : (ofEnvironment env).allowlist
      = ((env.text? keysVariable).map Allowlist.parse).getD {} := rfl
  rw [hallowlist, htext]
  exact Allowlist.parseKeys_eq_iff.2 h

theorem keys_of_no_text (h : env.text? keysVariable = none) :
    (ofEnvironment env).allowlist.keys = [] := by
  have hallowlist : (ofEnvironment env).allowlist
      = ((env.text? keysVariable).map Allowlist.parse).getD {} := rfl
  rw [hallowlist, h]
  rfl

/-- The settings list only keys that can be listed. -/
theorem isKey_of_mem (env : Environment) :
    ∀ key ∈ (ofEnvironment env).allowlist.keys, Allowlist.IsKey key := by
  cases htext : env.text? keysVariable with
  | none =>
      rw [keys_of_no_text htext]
      exact List.forall_mem_nil _
  | some text =>
      have hlists := Allowlist.lists_parseKeys text
      rw [keys_of_lists htext hlists]
      exact hlists.plain

/-- The settings list no key if the variable is not set, is no text or lists none. -/
theorem keys_eq_nil_iff : (ofEnvironment env).allowlist.keys = [] ↔ Unrestricted env := by
  cases hvalue : env.get? keysVariable with
  | none =>
      have hnone : env.text? keysVariable = none := by rw [Environment.text?, hvalue]; rfl
      exact iff_of_true (keys_of_no_text hnone) (.unset hvalue)
  | some bytes =>
      have htext : env.text? keysVariable = bytes.toText? := by
        rw [Environment.text?, hvalue]
        rfl
      cases hbytes : bytes.toText? with
      | none => exact iff_of_true (keys_of_no_text (htext.trans hbytes)) (.noText hvalue hbytes)
      | some text =>
          rw [keys_of_lists (htext.trans hbytes) (Allowlist.lists_parseKeys text),
            Allowlist.parseKeys_eq_iff, Allowlist.lists_nil_iff]
          refine ⟨.noKey hvalue hbytes, fun h => ?_⟩
          cases h with
          | unset h => cases hvalue.symm.trans h
          | noText h hnone =>
              cases hvalue.symm.trans h
              cases hbytes.symm.trans hnone
          | noKey h hsome hblank =>
              cases hvalue.symm.trans h
              cases hbytes.symm.trans hsome
              exact hblank

/-- **The settings let every key through** only if they list none. -/
theorem allows_all_iff (env : Environment) :
    (∀ key, (ofEnvironment env).allowlist.allows key = true) ↔ Unrestricted env := by
  rw [Allowlist.allows_all_iff (isKey_of_mem env), keys_eq_nil_iff]

end Config

open Allowlist Config in
/-- **Listed keys are read back.**  A text is read as a list of keys exactly if it lists them:
each key is not empty, holds no comma and has no blank at either end, and the text is made of
segments with commas between them, of which each is the next key with blanks around it, or
blank.  So every text lists the keys that are read of it, and these keys with commas between
them are read as the same keys.  The settings of an environment let every key through exactly
if the variable is not set, is no text, or holds nothing but commas and blanks; if it lists
some keys, they let through these and no others.  A publisher with these settings hands to its
store the details of the keys that they let through, and no others. -/
theorem listed_keys_read_back :
    (∀ text keys, parseKeys text = keys ↔ Lists text keys)
      ∧ (∀ text, parseKeys (written (parseKeys text)) = parseKeys text)
      ∧ ∀ env, ((∀ key, (ofEnvironment env).allowlist.allows key = true) ↔ Unrestricted env)
        ∧ (∀ text keys, env.text? keysVariable = some text → Lists text keys → keys ≠ [] →
            ∀ key, (ofEnvironment env).allowlist.allows key = true ↔ key ∈ keys)
        ∧ ∀ store ctx owner d details, owner.destination = some d →
            ∃ handed, Publisher.ofStore store (ofEnvironment env).allowlist ctx owner details
                = Publisher.writeTo store d ctx owner handed
              ∧ ∀ key, handed.get? key
                  = if (ofEnvironment env).allowlist.allows key = true then details.get? key
                    else none := by
  refine ⟨fun text keys => parseKeys_eq_iff, fun text => ?_, fun env => ⟨allows_all_iff env,
    fun text keys htext hlists hne key => ?_, fun store ctx owner d details howner => ?_⟩⟩
  · exact parseKeys_eq_iff.2 ⟨(lists_parseKeys text).plain, renders_written _⟩
  · have hkeys := keys_of_lists htext hlists
    rw [allows_iff_mem (hkeys ▸ hne), hkeys]
  · refine ⟨(ofEnvironment env).allowlist.restrict details, ?_, fun key => ?_⟩
    · unfold Publisher.ofStore
      rw [howner]
    · exact get?_restrict (ofEnvironment env).allowlist details key

namespace Sample

/-- An environment that lists three keys, with blanks around them and a segment that is empty. -/
def listing : Environment :=
  .ofList [(Config.keysVariable, Bytes.ofText " host, port ,,password ")]

end Sample

open Allowlist Config Sample in
/-- The three keys are read, and no other key is let through. -/
theorem host_port_and_password_read_back :
    parseKeys " host, port ,,password " = ["host", "port", "password"]
      ∧ (ofEnvironment listing).allowlist.allows "port" = true
      ∧ (ofEnvironment listing).allowlist.allows "user" = false
      ∧ ¬ Unrestricted listing := by
  obtain ⟨hread, -, hsettings⟩ := listed_keys_read_back
  obtain ⟨hall, hlisted, -⟩ := hsettings listing
  have hnone : AllBlank [] := List.forall_mem_nil _
  have hone : AllBlank [' '] := List.forall_mem_singleton.2 rfl
  have hholds := @Hold.key [' '] [] "host" _ _ hone hnone
    (@Hold.key [' '] [' '] "port" _ _ hone hone
      (.blank hnone (@Hold.key [] [' '] "password" _ _ hnone hone .nil)))
  have hlists : Lists " host, port ,,password " ["host", "port", "password"] := by
    refine ⟨?_, _, hholds, by decide⟩
    intro key hkey
    simp only [List.mem_cons, List.not_mem_nil, or_false] at hkey
    rcases hkey with rfl | rfl | rfl <;>
      exact ⟨by decide, by decide, fun _ hc => Option.some.inj hc ▸ rfl,
        fun _ hc => Option.some.inj hc ▸ rfl⟩
  have htext : listing.text? keysVariable = some " host, port ,,password " := by
    decide +kernel
  have hallows := hlisted _ _ htext hlists (by simp)
  refine ⟨(hread _ _).2 hlists, (hallows "port").2 (by simp), ?_, fun hopen => ?_⟩
  · exact Bool.eq_false_iff.2 fun h => absurd ((hallows "user").1 h) (by simp)
  · exact absurd ((hallows "user").1 (hall.2 hopen "user")) (by simp)

end ConnectionRelay
