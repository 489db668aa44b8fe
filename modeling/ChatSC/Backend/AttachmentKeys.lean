import ChatSC.Backend.ChatAttachments
import ChatSC.ForStd.Runs

/-!
# Storage keys of attachments (`chat-attachment.service.ts`)

`generatePresignedUploadUrl` stores a file in R2 under a key with the ids of its conversation and its
attachment and a name made of the file name.  `normalize` is `s.normalize('NFKD')`.
-/

namespace ChatSC.Backend

open JsString Runs

/-- `_` -/
def underscore : UInt16 := 0x5F

/-- `[a-zA-Z0-9._-]` -/
def isNameUnit (u : UInt16) : Bool :=
  (0x61 ≤ u && u ≤ 0x7A) || (0x41 ≤ u && u ≤ 0x5A) || (0x30 ≤ u && u ≤ 0x39) || u = 0x2E ||
    u = underscore || u = 0x2D

/-- The replacements of `buildR2Key`, one after the other. -/
def replacedName (name : JsString) : JsString :=
  -- `.replace(/[^a-zA-Z0-9._-]+/g, '_')`
  let allowed := replaceRuns (fun u => !isNameUnit u) [underscore] name
  -- `.replace(/_+/g, '_')`
  let collapsed := replaceRuns (· == underscore) [underscore] allowed
  -- `.replace(/^_+|_+$/g, '')`
  strip (· == underscore) collapsed

/-- `sanitizedName` -/
def sanitizedName (normalize : JsString → JsString) (fileName : JsString) : JsString :=
  let name := (replacedName (normalize fileName)).take 128
  if name = [] then js "file" else name

/-- `buildR2Key` -/
def buildR2Key (normalize : JsString → JsString) (conversationId attachmentId fileName : JsString) :
    JsString :=
  js "attachments/" ++ conversationId ++ js "/" ++ attachmentId ++ js "/" ++
    sanitizedName normalize fileName

example : buildR2Key id (js "507f") (js "11aa") (js "__my  (final) \u00e9.pdf") =
    js "attachments/507f/11aa/my_final_.pdf" := by decide

/-- The `r2Key` of an attachment: it is made of fields that are never written again. -/
def r2Key (normalize : JsString → JsString) (attachment : ChatAttachment) : JsString :=
  buildR2Key normalize attachment.conversationId.toString attachment.id.toString
    attachment.originalName

end ChatSC.Backend
