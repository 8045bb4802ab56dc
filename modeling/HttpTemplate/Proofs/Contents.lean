import HttpTemplate.Proofs.Parameters
import HttpTemplate.Proofs.Settling
import HttpTemplate.Proofs.Text.Utf8

/-! Text and content of responses. The text is what the content decodes to, wherever the body is
filled in, and a body that is bytes or text is kept as it is. -/

namespace HttpTemplate.Contents

open Completion Parameters Text

structure Carries (r : Response) (body : Value) : Prop where
  decoded : ∃ bs, r.content = .bytes bs ∧ r.text = .str (Utf8.decodeLossy bs)
  bytes : ∀ bs, body = .bytes bs → r.content = .bytes bs
  text : ∀ s, body = .str s → r.text = .str s

def bodyOf : Value → Value → Value
  | .map data, .null => Response.member data "body"
  | _, body => body

section Parts

lemma decodeLossy_encode (s : String) : Utf8.decodeLossy (Utf8.encode s) = s := by
  rw [Utf8.encode, Utf8.decodeLossy_encodeChars, String.ofList_toList]

lemma decodeLossy_bodyParts (body : Value) :
    Utf8.decodeLossy (Response.bodyParts body).2 = (Response.bodyParts body).1 := by
  cases body with
  | str s => exact decodeLossy_encode s
  | _ => rfl

variable {r : Response} {body : Value}

lemma carries_of_parts (htext : r.text = .str (Response.bodyParts body).1)
    (hcontent : r.content = .bytes (Response.bodyParts body).2) : Carries r body where
  decoded := ⟨_, hcontent, by rw [htext, decodeLossy_bodyParts]⟩
  bytes := by
    rintro bs rfl
    exact hcontent
  text := by
    rintro s rfl
    exact htext

lemma Carries.withBody (h : Carries r body) (other : Value)
    (hother : other.isNull = false → other = body) : Carries (withBody r other) body := by
  rw [Completion.withBody.eq_def]
  split
  · exact h
  · split
    · obtain rfl := hother rfl
      exact carries_of_parts rfl rfl
    · obtain rfl := hother rfl
      exact carries_of_parts rfl rfl
    · exact h

lemma Carries.withUrl (h : Carries r body) (url : Value) : Carries (withUrl r url) body := by
  rw [Completion.withUrl]
  split
  · exact ⟨h.decoded, h.bytes, h.text⟩
  · exact h

end Parts

section Answers

variable {r : Response} {raw : Value}

lemma carries_ofMapping (data : Table) :
    Carries (Response.ofMapping data) (Response.member data "body") :=
  carries_of_parts rfl rfl

lemma carries_mapping (data : Table) (body : Value) :
    Carries (ofMapping data body) (bodyOf (.map data) body) := by
  rw [ofMapping]
  cases hnull : body.isNull with
  | true =>
    obtain rfl := Value.isNull_iff.mp hnull
    exact carries_ofMapping data
  | false =>
    have hbody :
        bodyOf (.map data) body = Response.member (data.put (.str "body") body) "body" := by
      rw [Response.member, get?_put_str]
      cases body <;> first | rfl | cases hnull
    rw [hbody]
    exact carries_ofMapping _

lemma ofObject_cases (raw body : Value) :
    (∃ r, ofObject raw body = .ok r ∧ Carries r body) ∨
      ∃ m, Header.entries (attributeOf raw "headers") = .error m ∧
        ofObject raw body = .error m := by
  rw [ofObject, Header.normalize]
  cases hheaders : Header.entries (attributeOf raw "headers") with
  | error m => exact .inr ⟨m, rfl, rfl⟩
  | ok t => exact .inl ⟨_, rfl, carries_ofMapping _⟩

lemma unsettled_cases (raw body : Value) :
    (∃ r, unsettled (.value raw) body = .ok r ∧ Carries r (bodyOf raw body)) ∨
      ∃ m, Header.entries (attributeOf raw "headers") = .error m ∧
        unsettled (.value raw) body = .error m := by
  cases raw with
  | map data => exact .inl ⟨_, rfl, carries_mapping data body⟩
  | _ => exact ofObject_cases _ body

lemma response_cases (raw body url : Value) :
    (∃ r, Completion.response (.value raw) body url = .ok r ∧ Carries r (bodyOf raw body)) ∨
      ∃ m, Header.entries (attributeOf raw "headers") = .error m ∧
        Completion.response (.value raw) body url = .error m := by
  have hother : body.isNull = false → body = bodyOf raw body := by
    intro hnull
    cases raw <;> cases body <;> first | rfl | cases hnull
  rw [Completion.response]
  rcases unsettled_cases raw body with ⟨r, hr, hcarries⟩ | ⟨m, hm, herror⟩
  · exact .inl ⟨_, by rw [hr]; rfl, (hcarries.withBody body hother).withUrl url⟩
  · exact .inr ⟨m, hm, by rw [herror]; rfl⟩

end Answers

/-- The only other answers are objects whose headers are pairs with a key that cannot be one. -/
theorem text_decodes_content :
    (∀ data, Carries (Response.ofMapping data) (Response.member data "body")) ∧
    ∀ raw body url later,
      let result := ({ calls := { reply := .value raw, body } :: later } : Completion).settle? url
      (∃ r, result = some (.ok r) ∧ Carries r (bodyOf raw body)) ∨
        ∃ m, Header.entries (attributeOf raw "headers") = .error m ∧
          result = some (.error (.misuse m)) := by
  refine ⟨carries_ofMapping, fun raw body url later => ?_⟩
  have hsettle :=
    Settling.settle_calls (c := { reply := .value raw, body }) (by rintro e ⟨⟩) later url
  have hresult : Call.result { reply := .value raw, body } url =
      (Completion.response (.value raw) body url).mapError .misuse := rfl
  simp only
  rw [hsettle, hresult]
  rcases response_cases raw body url with ⟨r, hr, hcarries⟩ | ⟨m, hm, herror⟩
  · exact .inl ⟨r, by rw [hr]; rfl, hcarries⟩
  · exact .inr ⟨m, hm, by rw [herror]; rfl⟩

end HttpTemplate.Contents
