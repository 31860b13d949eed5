import DataPortal.Client.Basic
import DataPortal.Proofs.Text.Utf8
/-!
# Reading answers

An answer of success in UTF-8 is read as the value that the tokens of its text denote.
-/
namespace DataPortal.Service

/-- An answer of success with a text, where lists and objects can be open by the hundred. -/
def pageResponse (s : String) : Response :=
  ⟨200, Text.Utf8.encode s.toList, 900⟩

/-- It as a reply. -/
def page (s : String) : Reply :=
  .answered (pageResponse s)

theorem json_page {s : String} {v : Value} (tokens : List Json.Token)
    (hdetect : Text.Encoding.detect (Text.Utf8.encode s.toList) =
      (.utf8, Text.Utf8.encode s.toList))
    (htokens : Json.tokens .between (s.toList.map .char) = tokens)
    (hvalue : Json.valueOfTokens 900 ⟨[], .value false⟩ tokens = .ok v) :
    (pageResponse s).json = .ok v := by
  have htext : Text.Encoding.decode? (Text.Utf8.encode s.toList) = some (s.toList.map .char) := by
    rw [Text.Encoding.decode?, hdetect]
    exact Text.Utf8.decodePassing?_encode s.toList
  rw [Response.json, pageResponse, htext]
  dsimp only
  rw [Json.read, htokens, hvalue]

theorem readReply_page {s : String} {v : Value} (tokens : List Json.Token)
    (hdetect : Text.Encoding.detect (Text.Utf8.encode s.toList) =
      (.utf8, Text.Utf8.encode s.toList))
    (htokens : Json.tokens .between (s.toList.map .char) = tokens)
    (hvalue : Json.valueOfTokens 900 ⟨[], .value false⟩ tokens = .ok v) :
    Client.readReply (page s) = .ok v := by
  have hjson := json_page tokens hdetect htokens hvalue
  exact hjson

end DataPortal.Service
