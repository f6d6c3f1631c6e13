import SyntaxReport.Proofs.Calendar.Instant
import SyntaxReport.Proofs.Report.Writing
import SyntaxReport.Proofs.Text.Pieces

/-!
# Renderings tell reports apart

A rendering escapes nothing, but it can be taken apart: the first newline ends the path, the time
stamp behind it has a fixed length, and the rest is the tree. So a tree that looks like the heading
of another report cannot be taken for one.

Results:
* `renderingAt_eq_renderingAt_iff`: in front of any tree, the heading is found again.
* `Report.render_eq_render_iff`: which reports have the same rendering.
-/

namespace SyntaxReport

/-- The first newline ends the path, and the time stamp ends where it has its length. -/
theorem renderingAt_eq_renderingAt_iff {path path' tree tree' stamp stamp' : Text}
    (hpath : '\n' ∉ path) (hpath' : '\n' ∉ path') (hlength : stamp.length = stamp'.length) :
    renderingAt path tree stamp = renderingAt path' tree' stamp' ↔
      path = path' ∧ tree = tree' ∧ stamp = stamp' := by
  have hbreak : "\nParsed at: ".toList = '\n' :: "Parsed at: ".toList := by decide
  have hlines (path tree stamp : Text) : renderingAt path tree stamp =
      "File: ".toList ++ (path ++ '\n' :: ("Parsed at: ".toList ++
        (stamp ++ ("\n\n".toList ++ tree)))) := by
    unfold renderingAt heading
    rw [hbreak, List.append_assoc, List.append_assoc, List.append_assoc, List.append_assoc,
      List.cons_append]
  constructor
  · intro h
    rw [hlines, hlines, List.append_cancel_left_eq] at h
    obtain ⟨hsame, hbehind⟩ := (Text.append_cons_eq_iff hpath hpath').mp h
    obtain ⟨hstamp, hrest⟩ := List.append_inj (List.append_cancel_left hbehind) hlength
    exact ⟨hsame, List.append_cancel_left hrest, hstamp⟩
  · rintro ⟨rfl, rfl, rfl⟩
    rfl

namespace Report

/-- A rendering can be taken apart again. If the moments of two reports can be rendered, and there
is no newline in their paths, then both have a rendering, and the renderings are equal if and only
if the paths are equal, the trees are equal, and the moments fall in the same millisecond of
universal time. The trees can be any texts. -/
theorem render_eq_render_iff (a b : Report) (ha : '\n' ∉ a.sourcePath) (hb : '\n' ∉ b.sourcePath)
    (hmoment : ∃ stamp, timestamp a.parsedAt = .ok stamp)
    (hmoment' : ∃ stamp, timestamp b.parsedAt = .ok stamp) :
    ∃ s t, a.render = .ok s ∧ b.render = .ok t ∧
      (s = t ↔ a.sourcePath = b.sourcePath ∧ a.treeText = b.treeText ∧
        a.parsedAt.instant / 1000 = b.parsedAt.instant / 1000) := by
  obtain ⟨stamp, hstamp⟩ := hmoment
  obtain ⟨stamp', hstamp'⟩ := hmoment'
  refine ⟨_, _, render_of_timestamp hstamp, render_of_timestamp hstamp', ?_⟩
  obtain ⟨utc, hutc, rfl⟩ := timestamp_eq_ok_iff.mp hstamp
  obtain ⟨utc', hutc', rfl⟩ := timestamp_eq_ok_iff.mp hstamp'
  obtain ⟨hvalid, hinstant⟩ := Calendar.Moment.universal?_eq_some_iff.mp hutc
  obtain ⟨hvalid', hinstant'⟩ := Calendar.Moment.universal?_eq_some_iff.mp hutc'
  have hlength : utc.stamp.length = utc'.stamp.length :=
    hvalid.writtenAs_stamp.length_eq.trans hvalid'.writtenAs_stamp.length_eq.symm
  have hmilli : utc.stamp = utc'.stamp ↔
      a.parsedAt.instant / 1000 = b.parsedAt.instant / 1000 := by
    rw [hvalid.stamp_eq_stamp_iff hvalid', ← hinstant, ← hinstant']
    omega
  rw [renderingAt_eq_renderingAt_iff ha hb hlength, hmilli]

/-- A tree that looks like a heading, parsed within one millisecond by a clock without offset and
by one that is an hour and a half ahead. -/
theorem render_eq_render_iff_heading :
    let tree := "File: b.py\nParsed at: 2000-01-01T00:00:00.000Z\n\n()".toList
    let stamp := "2000-01-01T00:00:00.000Z".toList
    timestamp ⟨⟨⟨2000, 1, 1⟩, 0, 0, 0, 999⟩, none⟩ = .ok stamp ∧
      timestamp ⟨⟨⟨2000, 1, 1⟩, 1, 30, 0, 0⟩, some (.fixed 5400000000)⟩ = .ok stamp ∧
      ∃ s, render ⟨"a.py".toList, ⟨⟨⟨2000, 1, 1⟩, 0, 0, 0, 999⟩, none⟩, tree⟩ = .ok s ∧
        render ⟨"a.py".toList, ⟨⟨⟨2000, 1, 1⟩, 1, 30, 0, 0⟩, some (.fixed 5400000000)⟩, tree⟩ = .ok s := by
  intro tree stamp
  have hnaive : timestamp ⟨⟨⟨2000, 1, 1⟩, 0, 0, 0, 999⟩, none⟩ = .ok stamp := rfl
  have hahead : timestamp ⟨⟨⟨2000, 1, 1⟩, 1, 30, 0, 0⟩, some (.fixed 5400000000)⟩ = .ok stamp := rfl
  have hpath : '\n' ∉ "a.py".toList := by decide
  obtain ⟨s, t, hs, ht, hiff⟩ := render_eq_render_iff ⟨"a.py".toList, _, tree⟩
    ⟨"a.py".toList, _, tree⟩ hpath hpath ⟨_, hnaive⟩ ⟨_, hahead⟩
  obtain rfl : s = t := hiff.mpr ⟨rfl, rfl, by decide⟩
  exact ⟨hnaive, hahead, s, hs, ht⟩

end Report

end SyntaxReport
