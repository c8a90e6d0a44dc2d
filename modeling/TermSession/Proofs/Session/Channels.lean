import TermSession.Metadata
import TermSession.Proofs.Json.Opening

/-!
# Metadata over the command channels

A patch and its target are read back from a command that carries them, whatever stands in the patch.
The text of an object starts with a brace: where the payload does so too, no id is split off, and
elsewhere the first semicolon ends the id.  Every command that has an effect carries it in that
form.  A path is read back from a directory report, with or without an authority before it.

* `MetaEffect.exists_of_patch?`: the text of a patch starts with a brace;
* `MetaTarget.assign`: the payload that carries a patch to a target;
* `MetaEffect.exists_of_ofCommand?`: what a command with an effect carries;
* `MetaEffect.ofCommand?_channels`: channels decode back.
-/

namespace TermSession

open Json (isBlank)

namespace MetaEffect

theorem patch?_eq_some_iff {t : Text} {o : Json.Object} :
    patch? t = some o ↔ Json.Value.read? t = some (.obj o) := by
  unfold patch?
  split <;> simp_all

/-- The text of a patch starts with a brace, after blanks that may be left out. -/
theorem exists_of_patch? {t : Text} {o : Json.Object} (h : patch? t = some o) :
    ∃ blanks json, (∀ c ∈ blanks, isBlank c = true) ∧ json.head? = some '\x7b' ∧
      t = blanks ++ json ∧ patch? json = some o := by
  rw [patch?_eq_some_iff] at h
  obtain ⟨tree, htree, hvalue⟩ := Option.bind_eq_some_iff.1 h
  cases tree with
  | obj members =>
    obtain ⟨blanks, rest, hblanks, rfl⟩ := Json.exists_of_read?_obj htree
    refine ⟨blanks, '\x7b' :: rest, hblanks, rfl, rfl, ?_⟩
    rw [patch?_eq_some_iff, ← h, Json.Value.read?, Json.Value.read?, Json.Tree.read?,
      Json.Tree.read?, Json.tokens?_append_blanks hblanks]
  | null | bool => cases hvalue
  | number | str | arr =>
    rw [Json.Tree.value?] at hvalue
    simp at hvalue

/-- A written object with one text in it, whatever the text, is the patch with that text. -/
theorem patch?_writeObject (name : String) (value : Text) :
    patch? (Json.writeObject [(name, Json.writeString value)]) =
      some [(name.toList, .str value)] := by
  have htokens : Json.tokens? (Json.writeObject [(name, Json.writeString value)]) =
      some [.openObj, .str (some name.toList), .colon, .str (some value), .closeObj] := by
    simp [Json.writeObject, Json.writeMember, List.intercalate, List.append_assoc,
      Json.tokens?_punctuation (c := '\x7b') rfl, Json.tokens?_punctuation (c := ':') rfl,
      Json.tokens?_punctuation (c := '\x7d') rfl, Json.tokens?_writeString_append]
  have htree : Json.Tree.read? (some Json.depthLimit)
      (Json.writeObject [(name, Json.writeString value)]) =
        some (.obj [(some name.toList, .str (some value))]) := by
    rw [Json.Tree.read?, htokens]
    rfl
  rw [patch?_eq_some_iff, Json.Value.read?, htree, Option.bind_some]
  simp [Json.Tree.value?, Json.membersAfter, Json.Object.ofMembers, Json.Object.putBefore]

end MetaEffect

/-! ### Targets -/

theorem Text.isSpace_of_isBlank {c : Char} (h : isBlank c = true) : isSpace c = true := by
  rcases Json.isBlank_iff.1 h with rfl | rfl | rfl | rfl <;> decide

/-- The first character besides white space is a brace. -/
def Text.StartsObject (t : Text) : Prop := (t.dropWhile isSpace).head? = some '\x7b'

instance (t : Text) : Decidable t.StartsObject := inferInstanceAs (Decidable (_ = _))

theorem Text.startsObject_append_separator (id rest : Text) :
    StartsObject (id ++ ';' :: rest) ↔ id.StartsObject := by
  have hseparator : isSpace ';' = false := by decide
  unfold StartsObject
  rw [List.dropWhile_append]
  cases h : id.dropWhile isSpace with
  | nil => simp [hseparator]
  | cons c tail => simp

theorem Text.exists_of_splitOnce {sep : Char} {t before after : Text}
    (h : splitOnce sep t = some (before, after)) :
    sep ∉ before ∧ t = before ++ sep :: after := by
  rw [splitOnce, List.span_eq_takeWhile_dropWhile] at h
  have htake : sep ∉ t.takeWhile (· ≠ sep) := by
    intro hmem
    simpa using List.mem_takeWhile_imp hmem
  have happend := List.takeWhile_append_dropWhile (p := fun c => decide (c ≠ sep)) (l := t)
  have hhead := List.head?_dropWhile_not (fun c => decide (c ≠ sep)) t
  generalize t.takeWhile (fun c => decide (c ≠ sep)) = front at h htake happend
  generalize t.dropWhile (fun c => decide (c ≠ sep)) = back at h hhead happend
  cases back with
  | nil => cases h
  | cons c rest =>
    cases h
    obtain rfl : c = sep := by simpa using hhead
    exact ⟨htake, happend.symm⟩

namespace MetaTarget

/-- The id of a registered object can be written in front of a patch: it is not empty, ends at the
first semicolon and is not taken for the start of an object. -/
def Plain : MetaTarget → Prop
  | .session => True
  | .registered id => id ≠ [] ∧ ';' ∉ id ∧ ¬Text.StartsObject id

/-- The payload that carries the text of a patch to a target. -/
def assign (target : MetaTarget) (json : Text) : Text :=
  "setmeta;".toList ++
    match target with
    | .session => json
    | .registered id => id ++ ';' :: json

end MetaTarget

namespace MetaEffect

/-! ### Assignments -/

theorem ofAssignment?_of_patch? {json : Text} {o : Json.Object} (h : patch? json = some o) :
    ofAssignment? json = some ⟨.session, o⟩ := by
  have hstarts : Text.StartsObject json := by
    obtain ⟨blanks, tail, hblanks, hhead, rfl, -⟩ := exists_of_patch? h
    obtain ⟨rest, rfl⟩ := List.head?_eq_some_iff.1 hhead
    have hspace : Text.isSpace '\x7b' = false := by decide
    rw [Text.StartsObject,
      List.dropWhile_append_of_pos fun c hc => Text.isSpace_of_isBlank (hblanks c hc)]
    simp [hspace]
  rw [ofAssignment?, if_pos (by exact hstarts), h, Option.map_some]

/-- An id is split off at the first semicolon. -/
theorem ofAssignment?_append {id : Text} (hsep : ';' ∉ id) (hid : ¬Text.StartsObject id)
    (json : Text) :
    ofAssignment? (id ++ ';' :: json) =
      (patch? json).map (⟨if id.isEmpty then .session else .registered id, ·⟩) := by
  have hstarts := mt (Text.startsObject_append_separator id json).1 hid
  rw [ofAssignment?, if_neg (by exact hstarts), Text.splitOnce_append hsep]

/-- An assignment with an effect is the text of the patch, or has an id before it. -/
theorem exists_of_ofAssignment? {t : Text} {e : MetaEffect} (h : ofAssignment? t = some e) :
    e.target = .session ∧ patch? t = some e.patch ∨
      ∃ id json, ';' ∉ id ∧ ¬Text.StartsObject id ∧ t = id ++ ';' :: json ∧
        patch? json = some e.patch ∧
          e.target = if id.isEmpty then .session else .registered id := by
  unfold ofAssignment? at h
  split at h
  · obtain ⟨o, ho, rfl⟩ := Option.map_eq_some_iff.1 h
    exact .inl ⟨rfl, ho⟩
  · rename_i hstarts
    split at h
    · rename_i id json hsplit
      obtain ⟨o, ho, rfl⟩ := Option.map_eq_some_iff.1 h
      obtain ⟨hsep, rfl⟩ := Text.exists_of_splitOnce hsplit
      exact .inr ⟨id, json, hsep, mt (Text.startsObject_append_separator id json).2 hstarts, rfl,
        ho, rfl⟩
    · cases h

theorem ofSetMeta?_append (t : Text) : ofSetMeta? ("setmeta;".toList ++ t) = ofAssignment? t := by
  have hsplit : Text.splitOnce ';' ("setmeta;".toList ++ t) = some ("setmeta".toList, t) :=
    Text.splitOnce_append (t := "setmeta".toList) (by decide) t
  rw [ofSetMeta?, hsplit]
  exact if_pos rfl

theorem ofCommand?_setMeta (payload : Text) : ofCommand? ⟨9283, payload⟩ = ofSetMeta? payload :=
  if_pos rfl

theorem exists_of_ofSetMeta? {payload : Text} {e : MetaEffect} (h : ofSetMeta? payload = some e) :
    ∃ t, payload = "setmeta;".toList ++ t ∧ ofAssignment? t = some e := by
  unfold ofSetMeta? at h
  split at h
  · rename_i command rest hsplit
    obtain ⟨-, rfl⟩ := Text.exists_of_splitOnce hsplit
    split at h
    · rename_i hcommand
      subst hcommand
      exact ⟨rest, rfl, h⟩
    · cases h
  · cases h

/-- A patch and its target come back from what carries them. -/
theorem ofCommand?_assign {target : MetaTarget} (htarget : target.Plain) {json : Text}
    {o : Json.Object} (h : patch? json = some o) :
    ofCommand? ⟨9283, target.assign json⟩ = some ⟨target, o⟩ := by
  refine (ofCommand?_setMeta _).trans ((ofSetMeta?_append _).trans ?_)
  cases target with
  | session => exact ofAssignment?_of_patch? h
  | registered id =>
    obtain ⟨hne, hsep, hid⟩ := htarget
    have hempty : id.isEmpty = false := List.isEmpty_eq_false_iff.2 hne
    simp [ofAssignment?_append hsep hid, h, hempty]

/-- An empty id stands for the session. -/
theorem ofCommand?_assign_nil {json : Text} {o : Json.Object} (h : patch? json = some o) :
    ofCommand? ⟨9283, (MetaTarget.registered []).assign json⟩ = some ⟨.session, o⟩ := by
  refine (ofCommand?_setMeta _).trans ((ofSetMeta?_append _).trans ?_)
  have hid : ¬Text.StartsObject [] := by simp [Text.StartsObject]
  refine (ofAssignment?_append (by simp) hid json).trans ?_
  rw [h]
  rfl

/-- A command with an effect carries it: its target can be written in front of a patch, and the
patch stands behind it. -/
theorem exists_of_ofCommand? {payload : Text} {e : MetaEffect}
    (h : ofCommand? ⟨9283, payload⟩ = some e) :
    e.target.Plain ∧ ∃ json, patch? json = some e.patch ∧
      (payload = e.target.assign json ∨
        e.target = .session ∧ payload = (MetaTarget.registered []).assign json) := by
  obtain ⟨target, patch⟩ := e
  rw [ofCommand?_setMeta] at h
  obtain ⟨t, rfl, ht⟩ := exists_of_ofSetMeta? h
  obtain ⟨rfl, hpatch⟩ | ⟨id, json, hsep, hid, rfl, hpatch, rfl⟩ := exists_of_ofAssignment? ht
  · exact ⟨trivial, t, hpatch, .inl rfl⟩
  · cases id with
    | nil => exact ⟨trivial, json, hpatch, .inr ⟨rfl, rfl⟩⟩
    | cons c id => exact ⟨⟨by simp, hsep, hid⟩, json, hpatch, .inl rfl⟩

/-! ### Working directories -/

theorem path?_file {authority path : Text} (ha : '/' ∉ authority) (hp : path.head? = some '/') :
    path? ("file://".toList ++ (authority ++ path)) = some path := by
  obtain ⟨rest, rfl⟩ := List.head?_eq_some_iff.1 hp
  have hafter (t : Text) : Text.after? "file://".toList ("file://".toList ++ t) = some t := by
    simp [Text.after?]
  have hdrop : (authority ++ '/' :: rest).dropWhile (· ≠ '/') = '/' :: rest := by
    rw [List.dropWhile_append_of_pos]
    · simp
    · intro c hc
      simp only [ne_eq, decide_not, Bool.not_eq_eq_eq_not, Bool.not_true, decide_eq_false_iff_not]
      rintro rfl
      exact ha hc
  simp only [path?, hafter, hdrop]

theorem path?_plain {path : Text} (hp : path.head? = some '/') : path? path = some path := by
  obtain ⟨rest, rfl⟩ := List.head?_eq_some_iff.1 hp
  rfl

theorem ofCommand?_directory {payload path : Text} (h : path? payload = some path) :
    ofCommand? ⟨7, payload⟩ = some ⟨.session, [(directoryKey, .str path)]⟩ := by
  simp [ofCommand?, ofDirectory?, h]

/-! ### Both channels -/

/-- Channels decode back.  A patch comes back with its target from any text that reads as it,
whatever it holds, and without an id it is for the session, as with an empty one.  Conversely the
target of any effect can be written; the command carries a text of the patch, and re-encoding target
and patch has the same effect.  A path comes back from a directory report, with or without an
authority. -/
theorem ofCommand?_channels :
    (∀ (target : MetaTarget) (json : Text) (o : Json.Object), target.Plain →
        patch? json = some o → ofCommand? ⟨9283, target.assign json⟩ = some ⟨target, o⟩) ∧
      (∀ (json : Text) (o : Json.Object), patch? json = some o →
        ofCommand? ⟨9283, (MetaTarget.registered []).assign json⟩ = some ⟨.session, o⟩) ∧
      (∀ (payload : Text) (e : MetaEffect), ofCommand? ⟨9283, payload⟩ = some e →
        e.target.Plain ∧ ∃ blanks json : Text, (∀ c ∈ blanks, isBlank c = true) ∧
          json.head? = some '\x7b' ∧ patch? json = some e.patch ∧
          ofCommand? ⟨9283, e.target.assign json⟩ = some e ∧
          (payload = e.target.assign (blanks ++ json) ∨
            e.target = .session ∧
              payload = (MetaTarget.registered []).assign (blanks ++ json))) ∧
      ∀ authority path : Text, '/' ∉ authority → path.head? = some '/' →
        ofCommand? ⟨7, path⟩ = some ⟨.session, [(directoryKey, .str path)]⟩ ∧
          ofCommand? ⟨7, "file://".toList ++ (authority ++ path)⟩ = ofCommand? ⟨7, path⟩ := by
  refine ⟨fun target json o htarget => ofCommand?_assign htarget,
    fun json o => ofCommand?_assign_nil, fun payload e he => ?_, fun authority path ha hp => ?_⟩
  · obtain ⟨htarget, t, ht, hpayload⟩ := exists_of_ofCommand? he
    obtain ⟨blanks, json, hblanks, hhead, rfl, hjson⟩ := exists_of_patch? ht
    exact ⟨htarget, blanks, json, hblanks, hhead, hjson, ofCommand?_assign htarget hjson, hpayload⟩
  · have hplain := ofCommand?_directory (path?_plain hp)
    exact ⟨hplain, (ofCommand?_directory (path?_file ha hp)).trans hplain.symm⟩

/-- A patch with semicolons, braces and an escape, for a registered object. -/
theorem ofCommand?_channels_escapes :
    ofCommand? ⟨9283, (MetaTarget.registered "tab 1".toList).assign
        (Json.writeObject [("a;b", Json.writeString ['\x7d', ';', '\x7b', '"'])])⟩ =
      some ⟨.registered "tab 1".toList, [("a;b".toList, .str ['\x7d', ';', '\x7b', '"'])]⟩ ∧
    ofCommand? ⟨7, "file://".toList ++ ("host".toList ++ "/a b".toList)⟩ =
      ofCommand? ⟨7, "/a b".toList⟩ := by
  obtain ⟨hassign, -, -, hdirectory⟩ := ofCommand?_channels
  refine ⟨hassign _ _ _ ?_ (patch?_writeObject ..), (hdirectory _ _ (by decide) rfl).2⟩
  exact ⟨by decide, by decide, by decide⟩

end MetaEffect

end TermSession
