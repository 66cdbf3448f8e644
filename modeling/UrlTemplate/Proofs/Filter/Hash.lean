import UrlTemplate.Filter.Handler

/-!
# What hashing an item comes to

The filter `hash` either gets the hash of a text, or meets a `HashProblem`: there is no digest, the
item is no text, or the digest gives no answer. `FilterContext.HashesTo` says which; one of them
always holds (`exists_hashesTo`) and only one (`HashesTo.unique`). A problem is reported, and the
answer is then the empty text (`HashesTo.hash_eq`). Nothing else has to look into
`FilterContext.hash`.
-/

namespace UrlTemplate

/-- What keeps the filter `hash` from hashing an item. -/
inductive HashProblem
  /-- There is no digest. -/
  | noDigest
  /-- The item is no text, but of another kind. -/
  | notText (kind : String)
  /-- The digest gave no answer. -/
  | noAnswer (error : DigestError)
deriving DecidableEq, Repr

namespace HashProblem

/-- The event under which a problem is reported. -/
def event : HashProblem → String
  | .noDigest => "digest_unavailable"
  | .notText _ => "filter_failed"
  | .noAnswer (.unavailable _) => "digest_unavailable"
  | .noAnswer (.failed _) => "filter_failed"

/-- What is reported of a problem. -/
def details : HashProblem → Fields
  | .noDigest => [("filter", .str "hash")]
  | .notText kind =>
    [("filter", .str "hash"), ("error", .str ("Filter hash expects a string, got " ++ kind))]
  | .noAnswer (.unavailable message) => [("filter", .str "hash"), ("error", .str message)]
  | .noAnswer (.failed message) => [("filter", .str "hash"), ("error", .str message)]

end HashProblem

namespace FilterContext

/-- What hashing an item comes to: a hash, or a problem. -/
inductive HashesTo (context : FilterContext) (item : Item) : Except HashProblem String → Prop
  | noDigest (h : context.digest = none) : HashesTo context item (.error .noDigest)
  | notText {d : Digest} (h : context.digest = some d) (hitem : ∀ s, item ≠ .ready (.str s)) :
      HashesTo context item (.error (.notText item.kind))
  | noAnswer {d : Digest} {s : String} {error : DigestError} (h : context.digest = some d)
      (hitem : item = .ready (.str s)) (hdigest : d.digest s = .error error) :
      HashesTo context item (.error (.noAnswer error))
  | hashed {d : Digest} {s hash : String} (h : context.digest = some d)
      (hitem : item = .ready (.str s)) (hdigest : d.digest s = .ok hash) :
      HashesTo context item (.ok hash)

variable {context : FilterContext} {item : Item} {result result' : Except HashProblem String}

/-- Hashing an item always comes to something. -/
theorem exists_hashesTo (context : FilterContext) (item : Item) :
    ∃ result, context.HashesTo item result := by
  rcases hdigest : context.digest with _ | d
  · exact ⟨_, .noDigest hdigest⟩
  · by_cases hitem : ∃ s, item = .ready (.str s)
    · obtain ⟨s, rfl⟩ := hitem
      rcases hs : d.digest s with error | hash
      · exact ⟨_, .noAnswer hdigest rfl hs⟩
      · exact ⟨_, .hashed hdigest rfl hs⟩
    · exact ⟨_, .notText hdigest fun s hs => hitem ⟨s, hs⟩⟩

/-- Hashing an item comes to one thing only. -/
theorem HashesTo.unique (h : context.HashesTo item result) (h' : context.HashesTo item result') :
    result = result' := by
  rcases h with hd | ⟨hd, hitem⟩ | ⟨hd, rfl, hs⟩ | ⟨hd, rfl, hs⟩ <;>
    rcases h' with hd' | ⟨hd', hitem'⟩ | ⟨hd', hitem', hs'⟩ | ⟨hd', hitem', hs'⟩ <;> simp_all

/-- The filter `hash` answers with the hash, or reports its problem and answers with the empty
text. -/
theorem HashesTo.hash_eq (h : context.HashesTo item result) :
    context.hash item = match result with
      | .ok hash => ([], .str hash)
      | .error problem =>
        (context.diagnostics.userError problem.event problem.details, .str "") := by
  unfold FilterContext.hash
  rcases h with hdigest | ⟨hdigest, hitem⟩ | ⟨hdigest, rfl, hs⟩ | ⟨hdigest, rfl, hs⟩
  · simp only [hdigest]
    rfl
  · simp only [hdigest]
    rfl
  · rename_i error
    simp only [hdigest, hs]
    cases error <;> rfl
  · simp only [hdigest, hs]

/-- What hashing comes to depends on the digest only. -/
theorem HashesTo.congr {context' : FilterContext} (h : context.HashesTo item result)
    (hdigest : context'.digest = context.digest) : context'.HashesTo item result := by
  rcases h with hd | ⟨hd, hitem⟩ | ⟨hd, hitem, hs⟩ | ⟨hd, hitem, hs⟩
  · exact .noDigest (hdigest.trans hd)
  · exact .notText (hdigest.trans hd) hitem
  · exact .noAnswer (hdigest.trans hd) hitem hs
  · exact .hashed (hdigest.trans hd) hitem hs

end FilterContext

end UrlTemplate
