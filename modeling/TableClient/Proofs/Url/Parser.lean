import TableClient.Proofs.Url.Path
import TableClient.Url.Parser
/-! What a URL that is read looks like. It has the scheme that its text names, a special scheme
gives it a path of segments, and the path of a file has no empty segment in front of others. -/
namespace TableClient.Url

variable {url : Url} {scheme : String} {text : List Char}

/-- A URL with a scheme, and with a path that its scheme allows. -/
structure Sound (scheme : String) (url : Url) : Prop where
  scheme_eq : url.scheme = scheme
  segments : SchemeKind.ofName scheme ≠ .other → ∃ path, url.path = .segments path
  settled : ∀ path, url.path = .segments path → Path.Settled (SchemeKind.ofName scheme) path

namespace Parser

theorem sound_segments {kind : SchemeKind} {path : Path} (named : SchemeKind.ofName scheme = kind)
    (settled : Path.Settled kind path) (authority : Option Authority) (tail : Tail) :
    Sound scheme (withTail scheme authority (.segments path) tail) where
  scheme_eq := rfl
  segments _ := ⟨path, rfl⟩
  settled _ same := PathForm.segments.inj same ▸ named.symm ▸ settled

theorem settled_ofText (kind : SchemeKind) (text : List Char) :
    Path.Settled kind (Path.ofText kind text).path :=
  Path.settled_settle kind _

theorem settled_pathBehind (kind : SchemeKind) (text : List Char) :
    Path.Settled kind (pathBehind kind text).path := by
  unfold pathBehind
  split
  · cases kind <;> rfl
  · split <;> exact settled_ofText kind _

theorem sound_afterSlashes (read : afterSlashes scheme text = .ok url) : Sound scheme url := by
  unfold afterSlashes at read
  dsimp only at read
  split at read
  · cases read
  · cases found : authority scheme
        (Text.spanUntil (endsAuthority (SchemeKind.ofName scheme)) text).1 with
    | error error =>
      rw [found] at read
      cases read
    | ok found' =>
      rw [found] at read
      obtain rfl := Except.ok.inj read
      exact sound_segments rfl (settled_pathBehind _ _) _ _

theorem ofName_file : SchemeKind.ofName "file" = .file := rfl

theorem sound_hostlessFile (text : List Char) : Sound "file" (hostlessFile text) :=
  sound_segments ofName_file (settled_ofText .file _) _ _

theorem sound_fileAfterSlashes (read : fileAfterSlashes text = .ok url) : Sound "file" url := by
  unfold fileAfterSlashes at read
  dsimp only at read
  split at read
  · obtain rfl := Except.ok.inj read
    exact sound_hostlessFile text
  · cases found : localHost (Path.cleaned (Text.spanUntil (endsAuthority .file) text).1) with
    | error error =>
      rw [found] at read
      cases read
    | ok host =>
      rw [found] at read
      cases host with
      | none =>
        obtain rfl := Except.ok.inj read
        exact sound_hostlessFile _
      | some host =>
        obtain rfl := Except.ok.inj read
        exact sound_segments ofName_file (settled_pathBehind .file _) _ _

theorem sound_file (read : file text = .ok url) : Sound "file" url := by
  unfold file at read
  split at read
  · exact sound_fileAfterSlashes read
  · obtain rfl := Except.ok.inj read
    exact sound_segments ofName_file (settled_pathBehind .file _) _ _

theorem sound_other (kind : SchemeKind.ofName scheme = .other) (read : other scheme text = .ok url) :
    Sound scheme url := by
  unfold other at read
  split at read
  · exact sound_afterSlashes read
  · obtain rfl := Except.ok.inj read
    exact sound_segments kind (Path.settled_settle .other _) _ _
  · obtain rfl := Except.ok.inj read
    exact ⟨rfl, fun special => absurd kind special, fun path same => by cases same⟩

end Parser

/-- A URL that is read is sound for its own scheme. -/
theorem sound_parse {text : String} (read : parse text = .ok url) : Sound url.scheme url := by
  have named : ∃ scheme, Sound scheme url := by
    unfold parse at read
    dsimp only at read
    split at read
    · cases read
    · rename_i scheme rest _
      split at read
      · exact ⟨scheme, Parser.sound_afterSlashes read⟩
      · exact ⟨"file", Parser.sound_file read⟩
      · rename_i other
        exact ⟨scheme, Parser.sound_other other read⟩
  obtain ⟨scheme, sound⟩ := named
  rw [sound.scheme_eq]
  exact sound

/-- Two URLs that differ in nothing but their paths have different texts if these do. -/
theorem text_path_inj {url : Url} {path path' : Path}
    (same : ({ url with path := .segments path } : Url).text =
      ({ url with path := .segments path' } : Url).text) : Path.text path = Path.text path' := by
  have characters := congrArg String.toList same
  simpa only [Url.text, pathText, queryText, String.toList_append, List.append_cancel_right_eq,
    List.append_cancel_left_eq, String.toList_ofList] using characters

end TableClient.Url
