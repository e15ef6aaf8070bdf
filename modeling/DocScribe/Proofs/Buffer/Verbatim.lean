import DocScribe.Proofs.Buffer.Reload
import DocScribe.Proofs.Buffer.Saving

/-!
# Texts that a buffer gives back

A buffer ends all its lines alike, so it gives back a text exactly if its line ends are uniform
(`text_ofText_eq_self_iff`): each piece of the text between line feeds has to come back from its
line, and the last one from a line that nothing follows. A file that is loaded and saved holds the
text of the buffer, hence its own text for the same texts: `verbatim_iff_uniformLineEnds`.
-/

namespace DocScribe.Buffer

open Text FileSystem

/-- What a text that comes back has between its line feeds. -/
theorem splitOnByte_of_text_ofText {source : Text} (h : (ofText source).text = source)
    {front : List Text} {last : Text} (hsplit : splitOnByte lf source = front ++ [last]) :
    (∀ piece ∈ front, trimEndOf [cr] piece ++ (ofText source).lineEnd.mark = piece) ∧
      last.getLast? ≠ some cr := by
  have hlines : (ofText source).lines = front.map (trimEndOf [cr]) ++ [trimEndOf [cr] last] := by
    rw [ofText, Document.ofText, hsplit, List.map_append, List.map_singleton]
  have hpieces := splitOnByte_text hlines (singleLines_ofText source)
  rw [h, hsplit, List.map_map] at hpieces
  obtain ⟨hfront, hlast⟩ := List.append_inj' hpieces rfl
  constructor
  · refine List.map_inj_left.1 (hfront.symm.trans ?_)
    exact (List.map_id front).symm
  · exact trimEndOf_cr_eq_self_iff.1 (List.singleton_inj.1 hlast).symm

/-- A buffer over a text holds that text iff the line ends of the text are uniform. -/
theorem text_ofText_eq_self_iff {source : Text} :
    (ofText source).text = source ↔ UniformLineEnds source := by
  refine ⟨fun h => ?_, text_ofText⟩
  obtain ⟨front, last, hsplit, hs⟩ := exists_splitOnByte_eq_concat lf source
  obtain ⟨hfront, hlast⟩ := splitOnByte_of_text_ofText h hsplit
  constructor
  · rwa [hs, Ne, getLast?_terminate_append_iff (show cr ≠ lf by decide)]
  · by_cases hcrlf : [cr, lf] <:+: source
    · refine .inr (forall_lf_iff.2 fun piece hpiece => ?_)
      rw [hsplit, List.dropLast_concat] at hpiece
      have hends := hfront piece hpiece
      rw [lineEnd_ofText_eq_crlf_iff.2 hcrlf, LineEnd.mark] at hends
      rw [← hends, List.getLast?_concat]
    · exact .inl hcrlf

/-- A text with both line ends comes back with one of them. -/
example : (ofText "a\r\nb\n").text = "a\r\nb\r\n" := by
  decide

/-- A file was read into a buffer and written back. The name of the draft is free or a file: where
it is a link, that link would be renamed in place of a file. -/
structure Resaved (fs : FileSystem) (path source : Text) (after : FileSystem) : Prop where
  rooted : Rooted fs
  draft : ∀ target, fs.linkStat (draftPath path) ≠ .ok (.link target)
  read : fs.readFile path = .ok source
  saved : ∃ b saved, load fs path = .ok b ∧ b.save fs = (after, .ok saved)

theorem Beside.node?_written_of_ne_link {fs written : FileSystem} {path content : Text}
    {place dir : Place} {last : Text} (beside : Beside fs path dir last)
    (hwritten : Written fs (draftPath path) content place written)
    (draft : ∀ target, fs.linkStat (draftPath path) ≠ .ok (.link target)) :
    written.node? (dir ++ [draftName last]) = some (.file content) := by
  have hdraft := beside.draft fs (Keeps.refl fs) rfl
  have hplace := locate_follow hdraft fun target hlink =>
    draft target (linkStat_of_locate hdraft hlink)
  rw [hwritten.located] at hplace
  rw [hwritten.node, if_pos (Except.ok.inj hplace).symm]

/-- A saved file holds the text of its buffer. -/
theorem Resaved.exists_node? {fs after : FileSystem} {path source : Text}
    (resaved : Resaved fs path source after) : ∃ place, fs.locate false path = .ok place ∧
      after.node? place = some (.file (ofText source).text) := by
  obtain ⟨b, saved, hload, hsave⟩ := resaved.saved
  rw [load, resaved.read] at hload
  cases hload
  rw [save] at hsave
  split at hsave
  · cases hsave
  · rcases saveAs_cases resaved.rooted { ofText source with path } path with
      ⟨cause, fault, -, herror⟩ | ⟨place, dir, last, written, hwritten, -, beside, houtcome⟩
    · rw [herror] at hsave
      cases hsave
    · rcases houtcome with ⟨left, fault, herror, -⟩ | ⟨left, hok, htarget, hnode⟩
      · rw [herror] at hsave
        cases hsave
      · rw [hok] at hsave
        cases hsave
        refine ⟨dir ++ [last], htarget, ?_⟩
        rw [hnode, if_pos rfl, beside.node?_written_of_ne_link hwritten resaved.draft]
        rfl

/-- **A text survives a buffer unchanged exactly if its line ends are uniform**, and so does a file
that is loaded and saved. -/
theorem verbatim_iff_uniformLineEnds (source : Text) :
    ((ofText source).text = source ↔ UniformLineEnds source) ∧
      ∀ fs path after, Resaved fs path source after →
        ∃ place, fs.locate false path = .ok place ∧
          (after.node? place = some (.file source) ↔ UniformLineEnds source) := by
  refine ⟨text_ofText_eq_self_iff, fun fs path after resaved => ?_⟩
  obtain ⟨place, hplace, hnode⟩ := resaved.exists_node?
  refine ⟨place, hplace, ?_⟩
  rw [hnode, ← text_ofText_eq_self_iff, Option.some_inj, FileNode.file.injEq]

/-- A text whose lines all end in CR LF, one of them after another carriage return. -/
def doubledReturn : Text :=
  "fn f() \x7b\r\r\n\x7d\r\n"

def doubledReturnFiles : FileSystem :=
  { nodes := [(["lib.rs"], .file doubledReturn), (["lib.rs.tmp"], .file "draft")] }

def doubledReturnBuffer : Buffer :=
  { ofText doubledReturn with path := "lib.rs" }

theorem resaved_doubledReturn : Resaved doubledReturnFiles "lib.rs" doubledReturn
    (doubledReturnBuffer.save doubledReturnFiles).1 where
  rooted := rooted_of_nodes (by decide)
  draft := by
    have hdraft : doubledReturnFiles.linkStat (draftPath "lib.rs") = .ok (.file "draft") := by cbv
    simp [hdraft]
  read := by cbv
  saved := ⟨doubledReturnBuffer, doubledReturnBuffer, by cbv, by cbv⟩

theorem doubledReturn_verbatim :
    Resaved doubledReturnFiles "lib.rs" doubledReturn
        (doubledReturnBuffer.save doubledReturnFiles).1 ∧
      UniformLineEnds doubledReturn ∧ (ofText doubledReturn).text = doubledReturn ∧
      ∃ place, doubledReturnFiles.locate false "lib.rs" = .ok place ∧
        (doubledReturnBuffer.save doubledReturnFiles).1.node? place =
          some (.file doubledReturn) := by
  have uniform : UniformLineEnds doubledReturn := by decide
  obtain ⟨htext, hfile⟩ := verbatim_iff_uniformLineEnds doubledReturn
  obtain ⟨place, hplace, hnode⟩ := hfile _ _ _ resaved_doubledReturn
  exact ⟨resaved_doubledReturn, uniform, htext.2 uniform, place, hplace, hnode.2 uniform⟩

end DocScribe.Buffer
