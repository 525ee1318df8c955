import ParticipantDirectory.Http.Request
import ParticipantDirectory.Proofs.Json.Written

/-!
# Bodies of written documents

The text of an object is read from the body of a request as the object (`Request.content_of_written`): it begins with
two ASCII characters, so its bytes are known to be UTF-8, and it has no byte order mark.
-/

namespace ParticipantDirectory

namespace Text.Encoding

theorem ofFront_of_ne {a b : UInt8} (ha : a ≠ 0) (hb : b ≠ 0) (rest : List UInt8) :
    ofFront (a :: b :: rest) = utf8 := by
  rcases rest with _ | ⟨c, _ | ⟨d, rest⟩⟩
  · rw [ofFront, if_neg ha, if_neg hb]
  · rfl
  · rw [ofFront, if_neg ha, if_neg hb]

theorem bytes_ofList (s : List Char) : (String.ofList s).toUTF8.data.toList = s.flatMap String.utf8EncodeChar := by
  simp [String.toUTF8, List.utf8Encode]

/-- A text is read from its bytes. -/
theorem decode?_toUTF8 (s : String) : utf8.decode? s.toUTF8.data.toList = some s.toList :=
  congrArg (Option.map String.toList) (dif_pos s.isValidUTF8)

end Text.Encoding

namespace Http.Request

open Text.Encoding

/-- A request that has the text of an object as its body has the object as its content. -/
theorem content_of_written {r : Request} {n : Nat} {m : String × Json} {ms : List (String × Json)}
    (h : Json.Textual n (.obj (m :: ms))) (hn : n ≤ depthLimit)
    (htype : isJsonType (r.header "content-type") = true) (hbody : r.body = Json.render (.obj (m :: ms))) :
    r.content = .document (.obj (m :: ms)) := by
  obtain ⟨tail, htail⟩ : ∃ tail, Json.write (.obj (m :: ms)) = '\x7b' :: '"' :: tail := ⟨_, rfl⟩
  have hbytes : r.body.toUTF8.data.toList = 0x7B :: 0x22 :: tail.flatMap String.utf8EncodeChar := by
    rw [hbody, Json.render, bytes_ofList, htail]
    rfl
  have htext : utf8.decode? (0x7B :: 0x22 :: tail.flatMap String.utf8EncodeChar) =
      some (Json.write (.obj (m :: ms))) := by
    rw [← hbytes, decode?_toUTF8, hbody, Json.render, String.toList_ofList]
  have hread : Json.read depthLimit (withoutMark (Json.write (.obj (m :: ms)))) = .ok (.obj (m :: ms)) := by
    rw [htail, withoutMark, if_neg (by decide), ← htail]
    exact Json.read_write h hn
  simp only [content, hbytes, htype, ofFront_of_ne (a := 0x7B) (b := 0x22) (by decide) (by decide), htext, hread]
  rfl

end Http.Request

end ParticipantDirectory
