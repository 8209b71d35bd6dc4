import SpatialAccess.Facility.Reader
import SpatialAccess.Proofs.Facility.Grammar

/-!
# Facilities documents as bytes

A document is cut into tokens, each of which stands for tags once its name and its attributes are
decoded. Nothing else matters of it.

* `DocumentTag.ofToken?`: the tags of a token; an empty element has two. `DocumentTag.ofDocument?`:
  the tags of a document.
* `FacilitiesReader.exec?_readToken`: to read a token is to read its tags.
* **`Facilities.ofDocument_eq_ok_iff`**: a document is read just if it is complete and its tags are.
* `Facilities.exists_listsDocument_of_ofDocument`: a collection that was read has the facilities of
  elements. `Facilities.size_le_of_ofDocument`: there are no more of them than identifiers.
-/

namespace SpatialAccess

open ExceptT FacilitiesReader

variable {α : Type} [Number α]

/-! ## Tags of tokens -/

namespace DocumentTag

variable (α) in
/-- The tags of a token, if its name and its attributes can be decoded. -/
def ofToken? : Markup.Token → Option (List DocumentTag)
  | .start name attributes => do
    let name ← (tagText name : Except (ScenarioError α) String).toOption
    let attributes ← (attributeTexts attributes : Except (ScenarioError α) TagAttributes).toOption
    return [.start name attributes]
  | .empty name attributes => do
    let name ← (tagText name : Except (ScenarioError α) String).toOption
    let attributes ← (attributeTexts attributes : Except (ScenarioError α) TagAttributes).toOption
    return [.start name attributes, .finish name]
  | .finish name => do
    let name ← (tagText name : Except (ScenarioError α) String).toOption
    return [.finish name]

variable (α) in
/-- The tags of a document, if all of them can be decoded. -/
def ofDocument? (bytes : Markup.Bytes) : Option (List DocumentTag) :=
  ((Markup.tokens bytes).1.mapM (ofToken? α)).map List.flatten

end DocumentTag

namespace FacilitiesReader

/-- **To read a token is to read its tags.** -/
theorem exec?_readToken (token : Markup.Token) (r : FacilitiesReader α) :
    exec? (readToken token) r =
      (DocumentTag.ofToken? α token).bind fun tags => exec? (tags.forM readTag) r := by
  cases token with
  | start name attributes =>
    simp only [readToken, DocumentTag.ofToken?, exec?_bind, exec?_ofExcept]
    cases (tagText name : Except (ScenarioError α) String) with
    | error e => rfl
    | ok name =>
      cases (attributeTexts attributes : Except (ScenarioError α) TagAttributes) with
      | error e => rfl
      | ok attributes =>
        simp [Except.toOption, readTag, List.forM_eq_forM]
  | empty name attributes =>
    simp only [readToken, DocumentTag.ofToken?, exec?_bind, exec?_ofExcept]
    cases (tagText name : Except (ScenarioError α) String) with
    | error e => rfl
    | ok name =>
      cases (attributeTexts attributes : Except (ScenarioError α) TagAttributes) with
      | error e => rfl
      | ok attributes =>
        simp [Except.toOption, readTag, List.forM_eq_forM, exec?_bind]
  | finish name =>
    simp only [readToken, DocumentTag.ofToken?, exec?_bind, exec?_ofExcept]
    cases (tagText name : Except (ScenarioError α) String) with
    | error e => rfl
    | ok name => simp [Except.toOption, readTag, List.forM_eq_forM]

/-- To read tokens is to read all their tags. -/
theorem exec?_forM_readToken (tokens : List Markup.Token) (r : FacilitiesReader α) :
    exec? (tokens.forM readToken) r =
      ((tokens.mapM (DocumentTag.ofToken? α)).map List.flatten).bind fun tags =>
        exec? (tags.forM readTag) r := by
  have hstep : (fun (r : FacilitiesReader α) token => (exec? (readToken token) r).map Prod.snd) =
      fun r token => (DocumentTag.ofToken? α token).bind r.afterAll? := by
    funext r token
    rw [exec?_readToken]
    cases DocumentTag.ofToken? α token with
    | none => rfl
    | some tags =>
      simp only [Option.bind_some, exec?_forM_readTag, Option.map_map]
      exact Option.map_id' ..
  have hflatten : ∀ (tagss : List (List DocumentTag)) (r : FacilitiesReader α),
      tagss.foldlM afterAll? r = r.afterAll? tagss.flatten := by
    intro tagss
    induction tagss with
    | nil => exact fun _ => rfl
    | cons tags tagss ih =>
      intro r
      rw [List.foldlM_cons, List.flatten_cons, afterAll?_append]
      exact congrArg _ (funext ih)
  rw [exec?_forM, hstep, Option.foldlM_bind]
  cases tokens.mapM (DocumentTag.ofToken? α) with
  | none => rfl
  | some tagss =>
    rw [Option.bind_some, Option.map_some, Option.bind_some, hflatten, exec?_forM_readTag]

end FacilitiesReader

/-! ## Documents -/

namespace Facilities

omit [Number α] in
theorem finish_eq_ok_iff {r : FacilitiesReader α} {fs : Facilities α} :
    r.finish = .ok fs ↔ r.state = .outside ∧ r.facilities = fs := by
  by_cases hend : r.state = .outside <;> simp [finish, hend]

/-- All tokens of a document are read, and then the document is over. -/
theorem ofDocument_eq_ok_iff_exec? {bytes : Markup.Bytes} {fs : Facilities α} :
    ofDocument bytes = .ok fs ↔
      (Markup.tokens bytes).2 = .complete ∧ ∃ r : FacilitiesReader α,
        exec? ((Markup.tokens bytes).1.forM readToken) (outside {}) = some (⟨⟩, r) ∧
          r.finish = .ok fs := by
  have hofDocument : ofDocument bytes =
      match exec ((Markup.tokens bytes).1.forM readToken) (outside (α := α) {}),
        (Markup.tokens bytes).2 with
      | (.error e, _), _ => .error e
      | (.ok (), _), .malformed => .error .badMarkup
      | (.ok (), reader), .complete => reader.finish := rfl
  rw [hofDocument]
  simp only [exec?_eq_some_iff]
  rcases exec ((Markup.tokens bytes).1.forM readToken) (outside (α := α) {}) with ⟨_ | ⟨⟩, r⟩ <;>
    cases (Markup.tokens bytes).2 <;> simp

/-- **A document is read just if it is complete and its tags are.** -/
theorem ofDocument_eq_ok_iff {bytes : Markup.Bytes} {fs : Facilities α} :
    ofDocument bytes = .ok fs ↔
      (Markup.tokens bytes).2 = .complete ∧
        ∃ tags, DocumentTag.ofDocument? α bytes = some tags ∧ ofTags tags = .ok fs := by
  rw [ofDocument_eq_ok_iff_exec?, exec?_forM_readToken, ← DocumentTag.ofDocument?]
  refine and_congr_right fun _ => ?_
  simp only [Option.bind_eq_some_iff, ofTags_eq_ok_iff, finish_eq_ok_iff, exec?_forM_readTag,
    Option.map_eq_some_iff, Prod.mk.injEq, true_and, exists_eq_right]
  constructor
  · rintro ⟨r, ⟨tags, htags, hr⟩, hend⟩
    exact ⟨tags, htags, r, hr, hend⟩
  · rintro ⟨tags, htags, r, hr, hend⟩
    exact ⟨r, ⟨tags, htags, hr⟩, hend⟩

/-- A collection that was read has the facilities of the elements of a document. -/
theorem exists_listsDocument_of_ofDocument {bytes : Markup.Bytes} {fs : Facilities α}
    (h : ofDocument bytes = .ok fs) : ∃ doc : FacilitiesDocument, fs.ListsDocument doc := by
  obtain ⟨-, tags, -, htags⟩ := ofDocument_eq_ok_iff.1 h
  exact exists_listsDocument_of_ofTags htags

/-- There are no more facilities in a document than identifiers. -/
theorem size_le_of_ofDocument {bytes : Markup.Bytes} {fs : Facilities α}
    (h : ofDocument bytes = .ok fs) : fs.size ≤ Id.limit := by
  obtain ⟨doc, hdoc⟩ := exists_listsDocument_of_ofDocument h
  rw [hdoc.lists.size_eq]
  exact hdoc.lists.allowed.length_le

end Facilities

end SpatialAccess
