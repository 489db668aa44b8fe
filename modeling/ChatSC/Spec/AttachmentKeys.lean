import ChatSC.Backend.AttachmentKeys
import ChatSC.Spec.AttachedOnce

/-!
# Storage keys of attachments

Every step of `buildR2Key` keeps what the steps before it set up: the name in a key is safe whatever
the file name was and whatever normalising makes of it (`safeName_sanitizedName`), so that a key has
four segments and is of one attachment (`buildR2Key_segments`).  Along every run of the services the
stored keys stay as they are (`storedKeys_prefix`) and are of one attachment each
(`nodup_storedKeys`).
-/

namespace ChatSC.Spec

open Backend Collection JsString Transition Runs

/-- `/` -/
def slash : UInt16 := 0x2F

/-- A name that is a segment of a key. -/
structure SafeName (name : JsString) : Prop where
  one_le_length : 1 ≤ name.length
  length_le : name.length ≤ 128
  units : ∀ u ∈ name, isNameUnit u = true
  head : ¬ js "_" <+: name
  single : ¬ js "__" <:+: name

theorem js_underscore : js "_" = [underscore] := by decide

theorem js_underscores : js "__" = [underscore, underscore] := by decide

/-! ## The name -/

/-- A unit of the replaced name is `_` or was in the name, and a name may contain it. -/
theorem isNameUnit_of_mem {name : JsString} {u : UInt16} (h : u ∈ replacedName name) :
    isNameUnit u = true := by
  rcases mem_replaceRuns ((isInfix_strip _ _).subset h) with hu | ⟨hu, -⟩
  · rw [List.mem_singleton.mp hu]
    decide
  · rcases mem_replaceRuns hu with hu | ⟨-, hu⟩
    · rw [List.mem_singleton.mp hu]
      decide
    · simpa using hu

/-- The replaced name does not start with `_`. -/
theorem replacedName_start (name : JsString) : ¬ js "_" <+: replacedName name := by
  rw [js_underscore]
  intro h
  have hhead := head?_strip (List.singleton_prefix_iff_head?_eq_some.mp h)
  simp at hhead

/-- Taking `_` off the ends leaves no `__`, as there was none after the runs were replaced. -/
theorem replacedName_single (name : JsString) : ¬ js "__" <:+: replacedName name := by
  rw [js_underscores]
  intro h
  have hpair := rel_of_isInfix (isChain_replaceRuns (· == underscore) underscore _)
    (h.trans (isInfix_strip _ _))
  simp at hpair

theorem safeName_file : SafeName (js "file") where
  one_le_length := by decide
  length_le := by decide
  units := by
    rw [← List.forall_iff_forall_mem]
    decide
  head := by decide
  single := by decide

/-- **The name in a key is safe** for every file name and everything that normalising may do. -/
theorem safeName_sanitizedName (normalize : JsString → JsString) (fileName : JsString) :
    SafeName (sanitizedName normalize fileName) := by
  simp only [sanitizedName]
  split
  · exact safeName_file
  · rename_i hname
    -- cutting the name leaves a prefix of it
    have htaken := List.take_prefix 128 (replacedName (normalize fileName))
    exact {
      one_le_length := List.length_pos_of_ne_nil hname
      length_le := List.length_take_le 128 _
      units := fun u hu => isNameUnit_of_mem (htaken.subset hu)
      head := fun h => replacedName_start _ (h.trans htaken)
      single := fun h => replacedName_single _ (h.trans htaken.isInfix) }

/-! ## The key -/

theorem slash_not_mem_toString (id : ObjectId) : slash ∉ id.toString := by
  have hdigit : ∀ d : Fin 16, ObjectId.hexDigit d ≠ slash := by decide
  rw [ObjectId.toString, List.mem_map]
  rintro ⟨d, -, hd⟩
  exact hdigit d hd

theorem SafeName.slash_not_mem {name : JsString} (h : SafeName name) : slash ∉ name :=
  fun hslash => absurd (h.units slash hslash) (by decide)

/-- The segments of a key are what it was made of. -/
theorem splitOn_buildR2Key (normalize : JsString → JsString) {conversationId attachmentId : JsString}
    (hconversation : slash ∉ conversationId) (hattachment : slash ∉ attachmentId)
    (fileName : JsString) :
    (buildR2Key normalize conversationId attachmentId fileName).splitOn slash =
      [js "attachments", conversationId, attachmentId, sanitizedName normalize fileName] := by
  have hkey : buildR2Key normalize conversationId attachmentId fileName =
      [slash].intercalate
        [js "attachments", conversationId, attachmentId, sanitizedName normalize fileName] := by
    have hroot : js "attachments/" = js "attachments" ++ [slash] := by decide
    have hslash : js "/" = [slash] := by decide
    simp [buildR2Key, hroot, hslash]
  have hname := (safeName_sanitizedName normalize fileName).slash_not_mem
  have hroot : slash ∉ js "attachments" := by decide
  rw [hkey]
  -- no segment has a slash of its own
  exact List.splitOn_intercalate slash (by simp [*]) (List.cons_ne_nil _ _)

/-- A key has four segments, of which the last is safe. -/
theorem segments_buildR2Key (normalize : JsString → JsString) (conversation attachment : ObjectId)
    (fileName : JsString) :
    (buildR2Key normalize conversation.toString attachment.toString fileName).splitOn slash =
      [js "attachments", conversation.toString, attachment.toString,
        sanitizedName normalize fileName] :=
  splitOn_buildR2Key normalize (slash_not_mem_toString conversation)
    (slash_not_mem_toString attachment) fileName

/-- Keys that are the same are of the same attachment. -/
theorem attachment_of_buildR2Key {normalize : JsString → JsString}
    {conversation attachment conversation' attachment' : ObjectId} {fileName fileName' : JsString}
    (h : buildR2Key normalize conversation.toString attachment.toString fileName =
      buildR2Key normalize conversation'.toString attachment'.toString fileName') :
    attachment = attachment' := by
  have hsegments := congrArg (List.splitOn slash) h
  -- the third segments are the same
  rw [segments_buildR2Key, segments_buildR2Key] at hsegments
  simp only [List.cons.injEq] at hsegments
  exact ObjectId.toString_injective hsegments.2.2.1

/-- **A file name cannot steer a storage key**: it has the four segments of its pattern with a safe
    name as the last, and the keys of two attachments differ. -/
theorem buildR2Key_segments (normalize : JsString → JsString) (conversation attachment : ObjectId)
    (fileName : JsString) :
    (∃ name, (buildR2Key normalize conversation.toString attachment.toString fileName).splitOn slash =
        [js "attachments", conversation.toString, attachment.toString, name] ∧ SafeName name) ∧
      ∀ (conversation' attachment' : ObjectId) (fileName' : JsString), attachment ≠ attachment' →
        buildR2Key normalize conversation.toString attachment.toString fileName ≠
          buildR2Key normalize conversation'.toString attachment'.toString fileName' :=
  ⟨⟨_, segments_buildR2Key normalize conversation attachment fileName,
      safeName_sanitizedName normalize fileName⟩,
    fun _ _ _ hne h => hne (attachment_of_buildR2Key h)⟩

/-! ## The stored keys -/

/-- The attachments with their keys. -/
def storedKeys (normalize : JsString → JsString) (db : ChatDb) : List (ObjectId × JsString) :=
  db.attachments.map fun a => (a.id, r2Key normalize a)

theorem map_fst_storedKeys (normalize : JsString → JsString) (db : ChatDb) :
    (storedKeys normalize db).map Prod.fst = db.attachments.map ChatAttachment.id := by
  rw [storedKeys, List.map_map]
  rfl

/-- A step of a call changes no key, and stores one at most, for a new attachment. -/
theorem AttachmentEffect.storedKeys_eq {db db' : ChatDb} {call : AttachmentCall}
    (h : AttachmentEffect db call db') (normalize : JsString → JsString) :
    storedKeys normalize db' = storedKeys normalize db ∨
      ∃ id key, id ∉ (storedKeys normalize db).map Prod.fst ∧
        storedKeys normalize db' = storedKeys normalize db ++ [(id, key)] := by
  cases h with
  | quiet hrefs hattachments =>
    left
    rw [storedKeys, hattachments]
    rfl
  | created args ctx attachment encrypted sentAt id => exact .inl rfl
  | attached args ctx message attachment confirmedAt => exact .inl (map_updateOne fun _ => rfl)
  | drafted args conversation uploader id hfresh =>
    -- the key is made once, with the attachment
    rw [map_fst_storedKeys]
    exact .inr ⟨id, _, hfresh, List.map_append⟩
  | uploaded args loaded uploadedAt => exact .inl (map_updateOne fun _ => rfl)

/-- A step of the system changes no key, and stores one at most, for a new attachment. -/
theorem storedKeys_step {env : BackendEnv} {system system' : AttachmentSystem}
    {event : AttachmentEvent} (h : attachmentStep env system event = some system')
    (normalize : JsString → JsString) :
    storedKeys normalize system'.db = storedKeys normalize system.db ∨
      ∃ id key, id ∉ (storedKeys normalize system.db).map Prod.fst ∧
        storedKeys normalize system'.db = storedKeys normalize system.db ++ [(id, key)] := by
  rcases attachmentStep_eq_some h with
    ⟨call, -, -, rfl⟩ | ⟨index, input, call, db', call', -, -, hstep, rfl⟩
  · exact .inl rfl
  · exact (attachmentCallStep_effect hstep).storedKeys_eq normalize

/-- The stored keys stay as they are along every run. -/
theorem storedKeys_prefix {env : BackendEnv} {system system' : AttachmentSystem}
    {events : List AttachmentEvent} (hrun : run (attachmentStep env) system events = some system')
    (normalize : JsString → JsString) :
    storedKeys normalize system.db <+: storedKeys normalize system'.db := by
  have hkeep : ∀ (s : AttachmentSystem) (event : AttachmentEvent) (s' : AttachmentSystem),
      storedKeys normalize system.db <+: storedKeys normalize s.db →
      attachmentStep env s event = some s' →
      storedKeys normalize system.db <+: storedKeys normalize s'.db := by
    intro s event s' hs hstep
    rcases storedKeys_step hstep normalize with heq | ⟨id, key, -, heq⟩
    · rwa [heq]
    · rw [heq]
      exact hs.trans (List.prefix_append _ _)
  exact run_invariant hkeep (List.prefix_refl _) hrun

/-- A step keeps the ids of the attachments distinct. -/
theorem nodup_ids_step {env : BackendEnv} {system system' : AttachmentSystem}
    {event : AttachmentEvent} (hids : (system.db.attachments.map ChatAttachment.id).Nodup)
    (h : attachmentStep env system event = some system') :
    (system'.db.attachments.map ChatAttachment.id).Nodup := by
  rw [← map_fst_storedKeys id] at hids ⊢
  rcases storedKeys_step h id with heq | ⟨a, key, hfresh, heq⟩
  · rwa [heq]
  · rw [heq, List.map_append]
    exact hids.append (List.nodup_singleton a) (List.disjoint_singleton.mpr hfresh)

/-- **No two stored attachments have the same key**, along every run of the services from an empty
    database. -/
theorem nodup_storedKeys {env : BackendEnv} {system : AttachmentSystem}
    {events : List AttachmentEvent}
    (hrun : run (attachmentStep env) ⟨ChatDb.start [], []⟩ events = some system)
    (normalize : JsString → JsString) :
    ((storedKeys normalize system.db).map Prod.snd).Nodup := by
  have hstart : ((ChatDb.start []).attachments.map ChatAttachment.id).Nodup := List.nodup_nil
  have hids : (system.db.attachments.map ChatAttachment.id).Nodup :=
    run_invariant (s := ⟨ChatDb.start [], []⟩) (fun _ _ _ hids => nodup_ids_step hids) hstart hrun
  -- the ids of two attachments differ, so their keys do
  rw [List.Nodup, List.pairwise_map] at hids
  rw [storedKeys, List.map_map, List.Nodup, List.pairwise_map]
  exact hids.imp fun hne h => hne (attachment_of_buildR2Key h)

end ChatSC.Spec
