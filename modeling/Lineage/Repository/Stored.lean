import Lineage.Input.Reader
import Lineage.Repository.Archive
import Lineage.Text.Base64

/-!
Stored commit graphs as they are given: contents by key, and commits whose files name the keys.
-/

namespace Lineage

open Input Reader

/-- Reads a content: text, or bytes in base sixty-four. -/
def contentReader : Reader (List UInt8) := fun j =>
  match j with
  | .text s => .valid s.toUTF8.toList
  | j => field "b64" (fun b => (text b).map fun s => Text.Base64.decode s.toList) j

/-- Reads two texts. -/
def pairReader : Reader (String × String) := fun j =>
  (list text j).andThen fun
    | [a, b] => .valid (a, b)
    | _ => .refuse .notList

/-- Reads a commit; `contents` has the contents by key. A commit that does not say who made it was
made by Ann and handed in by Bob. -/
def CommitRecord.reader (contents : List (String × List UInt8)) : Reader CommitRecord :=
  record "CommitRecord" fun j =>
    let make (id : String) (parents : List String) (files renames : List (String × String))
        (authored committed : Int) (author authorEmail committer committerEmail : Option String)
        (message : String) : CommitRecord :=
      { id, parents, renames, authored, committed, author, authorEmail, committer, committerEmail,
        message, files := files.map fun f => (f.1, (contents.lookup f.2).getD []) }
    make <$> field "id" text j
      <*> fieldOr "parents" (list text) [] j
      <*> fieldOr "files" (table text) [] j
      <*> fieldOr "renames" (table text) [] j
      <*> fieldOr "authored" int 0 j
      <*> fieldOr "committed" int 0 j
      <*> fieldOr "author" (optional text) (some "Ann") j
      <*> fieldOr "author_email" (optional text) (some "ann@example.com") j
      <*> fieldOr "committer" (optional text) (some "Bob") j
      <*> fieldOr "committer_email" (optional text) (some "bob@example.com") j
      <*> fieldOr "message" text "" j

/-- Reads what is damaged. -/
def Damage.reader : Reader Damage := fun j =>
  Damage.mk <$> fieldOr "broken_commits" (list text) [] j
    <*> fieldOr "broken_logs" (list text) [] j
    <*> fieldOr "broken_diffs" (list text) [] j
    <*> fieldOr "broken_blobs" (list pairReader) [] j
    <*> fieldOr "empty_logs" (list text) [] j

/-- Reads a stored commit graph; `content` gives the content for a key. The head is the last commit
unless another one is named. -/
def Archive.reader (content : String → Json → Checked (List UInt8)) : Reader Archive :=
  let contents : Reader (List (String × List UInt8)) := fun j =>
    match j with
    | .object fields => fields.foldr
        (fun f rest => List.cons <$> ((content f.1 f.2).under (.field f.1)).map (fun b => (f.1, b))
          <*> rest) (.valid [])
    | _ => .refuse .notObject
  fun j =>
    (fieldOr "blobs" contents [] j).andThen fun contents =>
      let make (commits : List CommitRecord) (head : Option String) (damage : Damage) : Archive :=
        ⟨commits, head.getD ((commits.getLast?.map (·.id)).getD ""), damage⟩
      make <$> fieldOr "commits" (list (CommitRecord.reader contents)) [] j
        <*> fieldOr "head" (optional text) none j
        <*> Damage.reader j

end Lineage
