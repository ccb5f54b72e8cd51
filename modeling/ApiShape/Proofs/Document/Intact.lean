import ApiShape.Document.Reader
import ApiShape.Proofs.Source.Intact

/-!
# Documents whose text goes right

A document is only read from a text that goes right up to the end of the document, where it stands
for something that the document keeps as well as where it does not. Every record reads each of the
fields whose names it knows.
-/

namespace ApiShape

open Reader

theorem Info.careful_read : Careful Info.read :=
  careful_record fun _ =>
    (covers_field careful_text).map _ |>.optional careful_text |>.field careful_text

namespace Document

theorem Parameter.careful_read : Careful Parameter.read :=
  careful_record fun _ =>
    (covers_required careful_text).map _
      |>.required (careful_choice _ _)
      |>.field careful_flag
      |>.optional careful_flag
      |>.optional careful_text
      |>.optional (careful_choice _ _)
      |>.optional careful_flag
      |>.optional careful_flag
      |>.optional careful_schema
      |>.field (careful_json.map _)
      |>.optional careful_text
      |>.optional careful_schema
      |>.optional careful_json.list
      |>.field (careful_json.map _)

theorem MediaType.careful_read : Careful MediaType.read :=
  careful_record fun _ => (covers_optional careful_schema).map _

theorem RequestBody.careful_read : Careful RequestBody.read :=
  careful_record fun _ =>
    (covers_optional careful_text).map _
      |>.field careful_flag
      |>.field MediaType.careful_read.dict

theorem Response.careful_read : Careful Response.read :=
  careful_record fun _ =>
    (covers_optional careful_text).map _
      |>.optional MediaType.careful_read.dict
      |>.optional careful_schema

theorem SecurityScheme.careful_read : Careful SecurityScheme.read :=
  careful_record fun _ =>
    (covers_field careful_text).map _
      |>.optional careful_text
      |>.optional careful_text
      |>.optional careful_text
      |>.optional careful_text
      |>.optional careful_text
      |>.field careful_json.dict
      |>.optional careful_text
      |>.optional careful_text

theorem SecurityRequirement.careful_readAll : Careful SecurityRequirement.readAll :=
  careful_text.list.dict.list

theorem Operation.careful_read : Careful Operation.read :=
  careful_openRecord fun _ =>
    (covers_optional careful_text).map _
      |>.optional careful_text
      |>.optional careful_text
      |>.optional careful_flag
      |>.field careful_text.list
      |>.field (careful_refOr _).list
      |>.optional (careful_refOr _)
      |>.field (careful_refOr _).dict
      |>.optional SecurityRequirement.careful_readAll
      |>.optional careful_text.list
      |>.optional careful_text.list
      |>.skip

theorem PathItem.careful_read : Careful PathItem.read :=
  careful_record fun _ =>
    (covers_optional careful_text).map _
      |>.optional careful_text
      |>.optional Operation.careful_read
      |>.optional Operation.careful_read
      |>.optional Operation.careful_read
      |>.optional Operation.careful_read
      |>.optional Operation.careful_read
      |>.optional Operation.careful_read
      |>.optional Operation.careful_read
      |>.optional Operation.careful_read
      |>.field (careful_refOr _).list

theorem Components.careful_read : Careful Components.read :=
  careful_record fun _ =>
    (covers_field careful_schema.dict).map _
      |>.field Response.careful_read.dict
      |>.field Parameter.careful_read.dict
      |>.field RequestBody.careful_read.dict
      |>.field SecurityScheme.careful_read.dict

/-- A document is only read from a text that goes right up to its end. -/
theorem careful_read : Careful Document.read :=
  careful_record fun _ =>
    (covers_optional careful_text).map _
      |>.optional careful_text
      |>.field Info.careful_read
      |>.field PathItem.careful_read.dict
      |>.optional Components.careful_read
      |>.field careful_schema.dict
      |>.field Parameter.careful_read.dict
      |>.field Response.careful_read.dict
      |>.field SecurityScheme.careful_read.dict
      |>.optional SecurityRequirement.careful_readAll
      |>.field careful_text.list
      |>.field careful_text.list

end Document

end ApiShape
