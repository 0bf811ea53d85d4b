import Raster.Proofs.Grammar
import Mathlib

/-!
# Why a file is refused

A file can be wrong in many ways at once, and is refused for the first of them.  `Format.rejections`
lists the ways in the order in which they count, each with the condition under which it applies, as
one on fields at offsets of the format, and with the kind and the message that report it.  Every
file to which none applies is read, and the error of any other file has the kind and the message of
the first that does (`Image.read_rejects_first`).

The checks of the reader are not in this form: masks and color table are checked only where there
are any, and the bound of the masks is a check even where the bound of the header implies it.
`Reports` relates a list of rejections to an outcome, and is built up check by check
(`Reports.check`) and stage by stage (`Reports.append`).
-/

namespace Raster.Bmp

/-! ## Reports -/

/-- A way in which a file is wrong, with the report of it. -/
structure Rejection where
  /-- The condition under which a file is wrong in this way. -/
  applies : Prop
  kind : Error.Kind
  message : String

/-- An outcome reports the first of some rejections that applies, and is a success if none does. -/
inductive Reports : List Rejection → Except Error Unit → Prop where
  | done : Reports [] (.ok ())
  | applies {r : Rejection} {rs : List Rejection} {e : Error} (h : r.applies)
      (hkind : e.kind = r.kind) (hmessage : e.message = r.message) : Reports (r :: rs) (.error e)
  | passes {r : Rejection} {rs : List Rejection} {x : Except Error Unit} (h : ¬ r.applies)
      (hrest : Reports rs x) : Reports (r :: rs) x

namespace Reports

variable {r : Rejection} {rs rs' : List Rejection} {c : Check} {cs cs' : List Check}

/-- A check stands for the rejection that applies if it fails. -/
lemma check (happlies : r.applies ↔ ¬ c.condition) (hkind : c.error.kind = r.kind)
    (hmessage : c.error.message = r.message) (hrest : c.condition → Reports rs (verdict cs)) :
    Reports (r :: rs) (verdict (c :: cs)) := by
  rw [verdict_cons]
  by_cases hc : c.condition
  · rw [require_bind hc]
    exact passes (fun h => happlies.1 h hc) (hrest hc)
  · rw [require_bind_of_not hc]
    exact applies (happlies.2 hc) hkind hmessage

/-- What follows some checks counts only if all of them hold. -/
lemma append (h : Reports rs (verdict cs))
    (hrest : (∀ c ∈ cs, c.condition) → Reports rs' (verdict cs')) :
    Reports (rs ++ rs') (verdict (cs ++ cs')) := by
  rw [verdict_append]
  rw [← verdict_eq_ok_iff] at hrest
  generalize verdict cs = x at h hrest
  induction h with
  | done => exact hrest rfl
  | applies h hkind hmessage => exact applies h hkind hmessage
  | passes h _ ih => exact passes h (ih hrest)

lemma of_forall_not (h : ∀ r ∈ rs, ¬ r.applies) : Reports rs (.ok ()) := by
  induction rs with
  | nil => exact done
  | cons r rs ih =>
    rw [List.forall_mem_cons] at h
    exact passes h.1 (ih h.2)

/-- Rejections that do not apply may come first. -/
lemma skip (h : ∀ r ∈ rs, ¬ r.applies) (hrest : Reports rs' (verdict cs)) :
    Reports (rs ++ rs') (verdict cs) := by
  have hnone : Reports rs (verdict []) := of_forall_not h
  exact hnone.append fun _ => hrest

/-- Rejections that do not apply may come last. -/
lemma append_of_forall_not (h : Reports rs (verdict cs)) (hrest : ∀ r ∈ rs', ¬ r.applies) :
    Reports (rs ++ rs') (verdict cs) := by
  rw [← List.append_nil cs]
  exact h.append fun _ => of_forall_not hrest

lemma forall_not_of_ok (h : Reports rs (.ok ())) : ∀ r ∈ rs, ¬ r.applies := by
  generalize hx : (Except.ok () : Except Error Unit) = x at h
  induction h with
  | done => exact fun _ hr => nomatch hr
  | applies => cases hx
  | passes h _ ih => exact List.forall_mem_cons.2 ⟨h, ih hx⟩

/-- The rejections before the one that is reported do not apply. -/
lemma exists_of_error {e : Error} (h : Reports rs (.error e)) :
    ∃ before r after, rs = before ++ r :: after ∧ (∀ q ∈ before, ¬ q.applies) ∧ r.applies ∧
      e.kind = r.kind ∧ e.message = r.message := by
  generalize hx : (Except.error e : Except Error Unit) = x at h
  induction h with
  | done => cases hx
  | @applies r rs e' h hkind hmessage =>
    obtain rfl := Except.error.inj hx
    exact ⟨[], r, rs, rfl, fun _ hq => (nomatch hq), h, hkind, hmessage⟩
  | @passes r rs x h _ ih =>
    obtain ⟨before, r', after, rfl, hbefore, hr'⟩ := ih hx
    exact ⟨r :: before, r', after, rfl, List.forall_mem_cons.2 ⟨h, hbefore⟩, hr'⟩

end Reports

/-! ## The rejections -/

namespace Format

variable (data : Bytes)

/-- The message of the rejections that name no number. -/
def endOfDataText : String := "reached end of data while decoding bitmap"

/-- What is wrong with the file header, or with the bytes that should hold it. -/
def fileHeaderRejections : List Rejection :=
  [⟨2 ≤ data.length ∧ data.take 2 ≠ [0x42, 0x4d], .notBitmap,
    s!"missing `BM` signature (found \"{Escaped.ofBytes (data.take 2)}\")"⟩,
   ⟨data.length < 14, .truncated, endOfDataText⟩,
   ⟨data.length < fileSize data, .truncated,
    s!"file header declares {fileSize data} bytes, but only {data.length} are present"⟩]

/-- What is wrong with the size of the info header. -/
def infoHeaderRejections : List Rejection :=
  [⟨data.length < 18, .truncated, endOfDataText⟩,
   ⟨headerSize data = 12, .unsupported, "OS/2 core headers are not supported"⟩,
   ⟨headerSize data ∉ [40, 52, 56, 108, 124], .malformed,
    s!"invalid info header size {headerSize data}"⟩,
   ⟨data.length < 14 + headerSize data, .truncated, endOfDataText⟩]

/-- What is wrong with the description of the picture. -/
def pictureRejections : List Rejection :=
  [⟨width data ≤ 0, .malformed, s!"invalid image width {width data}"⟩,
   ⟨height data = 0, .malformed, s!"invalid image height {height data}"⟩,
   ⟨planes data ≠ 1, .malformed, s!"invalid plane count {planes data} (must be 1)"⟩,
   ⟨depth data ∉ [1, 4, 8, 16, 24, 32], .unsupported,
    s!"{depth data} bits per pixel are not supported"⟩]

/-- What is wrong with the compression scheme, or with the bytes that should hold the masks it
announces.  A longer header holds them itself. -/
def schemeRejections : List Rejection :=
  let name := (Compression.mk (LittleEndian.u32At data 30)).layout.flat
  [⟨¬ (scheme data = 0 ∨
      (scheme data = 3 ∨ scheme data = 6) ∧ (depth data = 16 ∨ depth data = 32)), .unsupported,
    s!"compression {name} is not supported at {depth data} bits per pixel"⟩,
   ⟨scheme data ≠ 0 ∧ headerSize data = 40 ∧ data.length < masksEnd data, .truncated,
    endOfDataText⟩]

/-- What is wrong with the mask of a channel. -/
def maskRejections (c : Channel) : List Rejection :=
  let mask := (masks data).get c
  [⟨scheme data ≠ 0 ∧ 2 ^ depth data ≤ mask.toNat, .malformed,
    s!"{c.name} channel mask {mask.text} exceeds {depth data} bits per pixel"⟩,
   ⟨scheme data ≠ 0 ∧ ¬ ∃ b s, mask.toNat = (2 ^ b - 1) * 2 ^ s, .malformed,
    s!"{c.name} channel mask {mask.text} is not contiguous"⟩]

/-- What is wrong with the color table. -/
def tableRejections : List Rejection :=
  let bits := depth data
  let entries := colorsUsed data
  [⟨bits ≤ 8 ∧ 2 ^ bits < entries, .malformed,
    s!"color table with {entries} entries exceeds the {2 ^ bits} colors allowed at {bits} "
      ++ "bits per pixel"⟩,
   ⟨bits ≤ 8 ∧ data.length < 14 + headerSize data + 4 * tableSize data, .truncated,
    endOfDataText⟩]

/-- What is wrong with the place of the pixel array. -/
def pixelRejections : List Rejection :=
  let offset := pixelOffset data
  let length := pixelBytes data
  let present := data.length
  [⟨offset < headersEnd data, .malformed,
    s!"pixel data offset {offset} overlaps the headers, which end at {headersEnd data}"⟩,
   ⟨present < offset + length, .truncated,
    s!"pixel array needs {length} bytes at offset {offset}, but the data is only {present} "
      ++ "bytes long"⟩]

/-- What is wrong with the source of the colors. -/
def colorRejections : List Rejection :=
  schemeRejections data ++ (Channel.all.flatMap (maskRejections data) ++ tableRejections data)

/-- All that can be wrong with a file, in the order in which it counts. -/
def rejections : List Rejection :=
  fileHeaderRejections data ++ (infoHeaderRejections data ++ (pictureRejections data ++
    (colorRejections data ++ pixelRejections data)))

/-! ## The checks of the reader -/

lemma reports_fileHeaderChecks :
    Reports (fileHeaderRejections data) (verdict (fileHeaderChecks data)) := by
  refine Reports.check Classical.not_imp.symm rfl rfl fun _ => ?_
  refine Reports.check not_le.symm rfl rfl fun _ => ?_
  exact Reports.check not_le.symm rfl rfl fun _ => Reports.done

lemma reports_infoHeaderChecks :
    Reports (infoHeaderRejections data) (verdict (infoHeaderChecks data)) := by
  refine Reports.check not_le.symm rfl rfl fun _ => ?_
  refine Reports.check not_not.symm rfl rfl fun _ => ?_
  refine Reports.check Iff.rfl rfl rfl fun _ => ?_
  exact Reports.check not_le.symm rfl rfl fun _ => Reports.done

lemma reports_pictureChecks :
    Reports (pictureRejections data) (verdict (pictureChecks data)) := by
  refine Reports.check not_lt.symm rfl rfl fun _ => ?_
  refine Reports.check not_not.symm rfl rfl fun _ => ?_
  refine Reports.check Iff.rfl rfl rfl fun _ => ?_
  exact Reports.check Iff.rfl rfl rfl fun _ => Reports.done

lemma reports_pixelChecks :
    Reports (pixelRejections data) (verdict (pixelChecks data)) := by
  refine Reports.check not_le.symm rfl rfl fun _ => ?_
  exact Reports.check not_le.symm rfl rfl fun _ => Reports.done

variable {data}

/-- The masks are judged in the order of the channels, each for its width first. -/
lemma reports_maskChecks (hs : scheme data ≠ 0) (cs : List Channel) :
    Reports (cs.flatMap (maskRejections data)) (verdict (cs.flatMap (maskChecks data))) := by
  induction cs with
  | nil => exact Reports.done
  | cons c cs ih =>
    rw [List.flatMap_cons, List.flatMap_cons]
    refine Reports.append ?_ fun _ => ih
    refine Reports.check ?_ rfl rfl fun _ => ?_
    · show scheme data ≠ 0 ∧ _ ↔ ¬ ((masks data).get c).Fits (depth data)
      rw [Mask.fits_iff, not_lt]
      exact and_iff_right hs
    refine Reports.check ?_ rfl rfl fun _ => Reports.done
    show scheme data ≠ 0 ∧ _ ↔ ¬ ((masks data).get c).IsRun
    rw [Mask.isRun_iff]
    exact and_iff_right hs

/-- Without stored masks, nothing is wrong with them. -/
lemma not_applies_of_scheme_eq_zero (hs : scheme data = 0) :
    ∀ r ∈ Channel.all.flatMap (maskRejections data), ¬ r.applies := by
  intro r hr
  obtain ⟨c, -, hr⟩ := List.mem_flatMap.1 hr
  simp only [maskRejections, List.mem_cons, List.not_mem_nil, or_false] at hr
  rcases hr with rfl | rfl
  · exact fun h => h.1 hs
  · exact fun h => h.1 hs

lemma not_applies_of_lt_depth (h8 : ¬ depth data ≤ 8) :
    ∀ r ∈ tableRejections data, ¬ r.applies := by
  intro r hr
  simp only [tableRejections, List.mem_cons, List.not_mem_nil, or_false] at hr
  rcases hr with rfl | rfl
  · exact fun h => h8 h.1
  · exact fun h => h8 h.1

/-- A header of 52 or more bytes has room for the masks. -/
lemma masksEnd_le (hmem : headerSize data ∈ [40, 52, 56, 108, 124]) (h40 : headerSize data ≠ 40) :
    masksEnd data ≤ 14 + headerSize data := by
  simp only [List.mem_cons, List.not_mem_nil, or_false] at hmem
  rw [masksEnd]
  split
  · next h =>
    rw [StoresAlpha] at h
    omega
  · omega

lemma reports_colorChecks (hmem : headerSize data ∈ [40, 52, 56, 108, 124])
    (hle : 14 + headerSize data ≤ data.length) :
    Reports (colorRejections data) (verdict (colorChecks data)) := by
  refine Reports.check Iff.rfl rfl rfl fun hscheme => ?_
  dsimp only at hscheme
  rw [sourceChecks]
  by_cases hs : scheme data = 0
  · -- no masks, so the color table comes next if there is one
    rw [if_neg (not_not.2 hs)]
    refine Reports.passes (fun h => h.1 hs) ?_
    show Reports (Channel.all.flatMap (maskRejections data) ++ tableRejections data) _
    refine Reports.skip (not_applies_of_scheme_eq_zero hs) ?_
    by_cases h8 : depth data ≤ 8
    · rw [if_pos h8]
      refine Reports.check ?_ rfl rfl fun _ => ?_
      · rw [not_le]
        exact and_iff_right h8
      refine Reports.check ?_ rfl rfl fun _ => Reports.done
      rw [not_le]
      exact and_iff_right h8
    · rw [if_neg h8]
      exact Reports.of_forall_not (not_applies_of_lt_depth h8)
  · -- masks, and no color table
    rw [if_pos hs]
    refine Reports.check ?_ rfl rfl fun _ => ?_
    · rw [not_le]
      constructor
      · exact fun h => h.2.2
      · intro hlt
        refine ⟨hs, ?_, hlt⟩
        by_contra h40
        have hend := masksEnd_le hmem h40
        omega
    show Reports (Channel.all.flatMap (maskRejections data) ++ tableRejections data) _
    refine Reports.append_of_forall_not (reports_maskChecks hs Channel.all) ?_
    exact not_applies_of_lt_depth (by omega)

/-- The checks of the reader report the first rejection that applies. -/
lemma reports_checks (data : Bytes) : Reports (rejections data) (verdict (checks data)) := by
  refine (reports_fileHeaderChecks data).append fun _ => ?_
  refine (reports_infoHeaderChecks data).append fun hinfo => ?_
  obtain ⟨hmem, hle⟩ := headerSize_of_infoHeaderChecks hinfo
  refine (reports_pictureChecks data).append fun _ => ?_
  exact (reports_colorChecks hmem hle).append fun _ => reports_pixelChecks data

/-- The kinds of the rejections, which do not depend on the file. -/
lemma map_kind_rejections (data : Bytes) :
    (rejections data).map Rejection.kind =
      [.notBitmap, .truncated, .truncated, .truncated, .unsupported, .malformed, .truncated,
        .malformed, .malformed, .malformed, .unsupported, .unsupported, .truncated,
        .malformed, .malformed, .malformed, .malformed, .malformed, .malformed, .malformed,
        .malformed, .malformed, .truncated, .malformed, .truncated] := rfl

end Format

namespace Image

open Format

variable {data : Bytes}

/-- Reading ends as the checks do. -/
lemma reports_read (data : Bytes) :
    Reports (rejections data) ((read data).value.map fun _ => ()) := by
  have hreports := reports_checks data
  rw [value_read]
  cases hverdict : verdict (checks data) with
  | ok u => rwa [hverdict] at hreports
  | error e => rwa [hverdict] at hreports

/-- **Why a file is refused.**  A file is refused if and only if a rejection applies to it, and its
error has the kind and the message of the first that does.  The kind is one of four: reading
neither fails for a reason outside the file nor asks a surface. -/
theorem read_rejects_first (data : Bytes) :
    ((∃ e, (read data).value = .error e) ↔ ∃ r ∈ rejections data, r.applies) ∧
      ∀ e, (read data).value = .error e →
        (∃ before r after, rejections data = before ++ r :: after ∧
          (∀ q ∈ before, ¬ q.applies) ∧ r.applies ∧ e.kind = r.kind ∧ e.message = r.message) ∧
        e.kind ∈ [.notBitmap, .truncated, .malformed, .unsupported] := by
  have hreports := reports_read data
  cases hread : (read data).value with
  | ok i =>
    rw [hread] at hreports
    have hnone := hreports.forall_not_of_ok
    refine ⟨⟨nofun, ?_⟩, nofun⟩
    rintro ⟨r, hr, happlies⟩
    exact absurd happlies (hnone r hr)
  | error e =>
    rw [hread] at hreports
    obtain ⟨before, r, after, hsplit, hbefore, happlies, hkind, hmessage⟩ :=
      hreports.exists_of_error
    have hr : r ∈ rejections data := by
      rw [hsplit]
      exact List.mem_append_right _ List.mem_cons_self
    refine ⟨⟨fun _ => ⟨r, hr, happlies⟩, fun _ => ⟨e, rfl⟩⟩, ?_⟩
    rintro e' he
    obtain rfl := Except.error.inj he
    refine ⟨⟨before, r, after, hsplit, hbefore, happlies, hkind, hmessage⟩, ?_⟩
    have hmem : r.kind ∈ (rejections data).map Rejection.kind := List.mem_map_of_mem hr
    rw [map_kind_rejections] at hmem
    rw [hkind]
    revert hmem
    generalize r.kind = k
    cases k <;> decide

/-- The sample file with no columns and two planes, cut short after its info header. -/
def crooked : Bytes := (((sample.set 18 0).set 26 2).set 2 54).take 54

/-- Of all that is wrong with the file, the number of columns counts first. -/
theorem read_rejects_first_sample :
    (read crooked).value = .error (.invalidWidth 0) ∧
      ∃ before r after, rejections crooked = before ++ r :: after ∧
        (∀ q ∈ before, ¬ q.applies) ∧ r.applies ∧ r.kind = .malformed ∧
        r.message = "invalid image width 0" := by
  have hread : (read crooked).value = .error (.invalidWidth 0) := rfl
  obtain ⟨-, hfirst⟩ := read_rejects_first crooked
  obtain ⟨⟨before, r, after, hsplit, hbefore, happlies, hkind, hmessage⟩, -⟩ := hfirst _ hread
  exact ⟨hread, before, r, after, hsplit, hbefore, happlies, hkind.symm, hmessage.symm⟩

end Image

end Raster.Bmp
