import CdGraphics.Proofs.Offset
import CdGraphics.Proofs.ReportReading
import CdGraphics.Proofs.Writing
import Mathlib.Algebra.GroupWithZero.Nat
import Mathlib.Data.List.Induction
import Mathlib.Data.String.Basic

/-!
# What a report says

A report sets a stream's packets beside the instructions decoded from them. There are as many of
one as of the other, so that no row is lost, and the hexadecimal texts of the rows hold the whole
stream but for its tail (`decode_hex_rows`). Its counts by name come from adding one name after the
other, which keeps them in order and exact (`Tally.mem_ofList`). `inspect_report` says this of what
the command prints, and that a report's JSON leaves nothing of it out.
-/

namespace CdGraphics

/-! ## Counts -/

namespace Tally

variable {t : Tally} {name : String} {names : List String} {entry : String × Nat}

/-- The names ascend, so that none is counted in two places. -/
def Ascending (t : Tally) : Prop := t.Pairwise (·.1 < ·.1)

theorem sum_add (name : String) : ∀ t : Tally,
    ((add name t).map Prod.snd).sum = (t.map Prod.snd).sum + 1
  | [] => rfl
  | (other, count) :: rest => by
    rw [add]
    split_ifs
    · simp only [List.map_cons, List.sum_cons]
      omega
    · simp only [List.map_cons, List.sum_cons]
      omega
    · simp only [List.map_cons, List.sum_cons, sum_add name rest]
      omega

/-- Adding a name to ascending counts adds one to its count, or a first count, and leaves the
others. -/
theorem mem_add : ∀ {t : Tally}, t.Ascending → (entry ∈ add name t
    ↔ entry.1 ≠ name ∧ entry ∈ t
      ∨ (∃ count, (name, count) ∈ t ∧ entry = (name, count + 1))
      ∨ (∀ count, (name, count) ∉ t) ∧ entry = (name, 1))
  | [], _ => by simp [add]
  | (other, count) :: rest, h => by
    obtain ⟨hlt, hrest⟩ := List.pairwise_cons.1 h
    rw [add]
    split_ifs with heq hless
    · -- The names that follow are greater, so this is the only count to change.
      subst heq
      have hout : ∀ k, (name, k) ∉ rest := fun k hk => absurd (hlt _ hk) (lt_irrefl name)
      have hne : ∀ e ∈ rest, e.1 ≠ name := fun e he => (ne_of_lt (hlt e he)).symm
      constructor
      · intro hmem
        rcases List.mem_cons.1 hmem with rfl | hmem
        · exact .inr (.inl ⟨count, List.mem_cons_self, rfl⟩)
        · exact .inl ⟨hne _ hmem, List.mem_cons_of_mem _ hmem⟩
      · rintro (⟨hname, hmem⟩ | ⟨k, hk, rfl⟩ | ⟨hnone, -⟩)
        · rcases List.mem_cons.1 hmem with rfl | hmem
          · exact absurd rfl hname
          · exact List.mem_cons_of_mem _ hmem
        · rcases List.mem_cons.1 hk with hk | hk
          · cases hk
            exact List.mem_cons_self
          · exact absurd hk (hout k)
        · exact absurd List.mem_cons_self (hnone count)
    · have hout : ∀ e ∈ (other, count) :: rest, e.1 ≠ name := by
        intro e he
        rcases List.mem_cons.1 he with rfl | he
        · exact Ne.symm heq
        · exact (ne_of_lt (lt_trans hless (hlt e he))).symm
      constructor
      · intro hmem
        rcases List.mem_cons.1 hmem with rfl | hmem
        · exact .inr (.inr ⟨fun k hk => hout _ hk rfl, rfl⟩)
        · exact .inl ⟨hout _ hmem, hmem⟩
      · rintro (⟨-, hmem⟩ | ⟨k, hk, -⟩ | ⟨-, rfl⟩)
        · exact List.mem_cons_of_mem _ hmem
        · exact absurd rfl (hout _ hk)
        · exact List.mem_cons_self
    · have hne : ∀ k, (name, k) ≠ (other, count) := fun k hk => heq (congrArg Prod.fst hk)
      rw [List.mem_cons, mem_add hrest]
      simp only [List.mem_cons, hne, false_or]
      constructor
      · rintro (rfl | ⟨hname, hmem⟩ | hmem)
        · exact .inl ⟨Ne.symm heq, .inl rfl⟩
        · exact .inl ⟨hname, .inr hmem⟩
        · exact .inr hmem
      · rintro (⟨hname, rfl | hmem⟩ | hmem)
        · exact .inl rfl
        · exact .inr (.inl ⟨hname, hmem⟩)
        · exact .inr (.inr hmem)

theorem Ascending.add : ∀ {t : Tally}, t.Ascending → (Tally.add name t).Ascending
  | [], _ => List.pairwise_singleton _ _
  | (other, count) :: rest, h => by
    have hrest : Ascending rest := (List.pairwise_cons.1 h).2
    have hlt := (List.pairwise_cons.1 h).1
    rw [Tally.add]
    split_ifs with heq hless
    · exact List.pairwise_cons.2 ⟨hlt, hrest⟩
    · refine List.pairwise_cons.2 ⟨fun e he => ?_, h⟩
      rcases List.mem_cons.1 he with rfl | he
      · exact hless
      · exact lt_trans hless (hlt e he)
    · have hgreater : other < name := lt_of_le_of_ne (not_lt.1 hless) (Ne.symm heq)
      refine List.pairwise_cons.2 ⟨fun e he => ?_, hrest.add⟩
      rcases (mem_add hrest).1 he with ⟨-, he⟩ | ⟨k, -, rfl⟩ | ⟨-, rfl⟩
      · exact hlt e he
      · exact hgreater
      · exact hgreater

theorem ofList_concat (names : List String) (name : String) :
    ofList (names ++ [name]) = add name (ofList names) := List.foldl_concat ..

theorem ascending_ofList (names : List String) : (ofList names).Ascending := by
  induction names using List.reverseRecOn with
  | nil => exact .nil
  | append_singleton names name ih =>
    rw [ofList_concat]
    exact ih.add

theorem sum_ofList (names : List String) : ((ofList names).map Prod.snd).sum = names.length := by
  induction names using List.reverseRecOn with
  | nil => rfl
  | append_singleton names name ih =>
    rw [ofList_concat, sum_add, ih, List.length_append, List.length_singleton]

/-- Names are counted as often as they occur, and those that do not occur have no count. -/
theorem mem_ofList {names : List String} {count : Nat} :
    (name, count) ∈ ofList names ↔ 0 < count ∧ count = names.count name := by
  induction names using List.reverseRecOn generalizing name count with
  | nil =>
    rw [List.count_nil]
    refine ⟨fun h => (List.not_mem_nil h).elim, fun ⟨hpos, hzero⟩ => ?_⟩
    omega
  | append_singleton names last ih =>
    rw [ofList_concat, mem_add (ascending_ofList names), List.count_append]
    simp only [ih, Prod.mk.injEq]
    by_cases hname : name = last
    · subst hname
      rw [List.count_singleton_self]
      constructor
      · rintro (⟨hne, -⟩ | ⟨k, ⟨hk, rfl⟩, -, rfl⟩ | ⟨hnone, -, rfl⟩)
        · exact absurd rfl hne
        · exact ⟨Nat.succ_pos _, rfl⟩
        · have hzero : names.count name = 0 := by
            refine Nat.eq_zero_of_not_pos fun hpos => ?_
            exact hnone _ ⟨hpos, rfl⟩
          rw [hzero]
          exact ⟨Nat.one_pos, rfl⟩
      · rintro ⟨-, rfl⟩
        rcases Nat.eq_zero_or_pos (names.count name) with hzero | hpos
        · refine .inr (.inr ⟨fun k hk => ?_, rfl, by rw [hzero]⟩)
          omega
        · exact .inr (.inl ⟨_, ⟨hpos, rfl⟩, rfl, rfl⟩)
    · have hnone : [last].count name = 0 := List.count_eq_zero.2 (by simpa using hname)
      rw [hnone, Nat.add_zero]
      simp [hname]

end Tally

/-! ## Hexadecimal texts -/

namespace Hex

theorem digit_mem : ∀ n < 16, digit n ∈ "0123456789abcdef".toList := by decide

/-- All digits are lower-case ones. -/
theorem mem_encode : ∀ {bytes : List UInt8}, ∀ c ∈ encode bytes, c ∈ "0123456789abcdef".toList
  | b :: rest, c, h => by
    have hb := b.toNat_lt
    rw [encode, List.mem_cons, List.mem_cons] at h
    rcases h with rfl | rfl | h
    · exact digit_mem _ (by omega)
    · exact digit_mem _ (by omega)
    · exact mem_encode c h

theorem encode_flatMap {α : Type} (f : α → List UInt8) : ∀ l : List α,
    encode (l.flatMap f) = l.flatMap fun a => encode (f a)
  | [] => rfl
  | a :: rest => by rw [List.flatMap_cons, List.flatMap_cons, encode_append, encode_flatMap f rest]

end Hex

/-- A stream's packets hold all of it but its tail. -/
theorem flatMap_packets (bytes : List UInt8) : (packets bytes).flatMap (fun p => p.bytes.toList)
    = bytes.take (bytes.length - trailingBytes bytes) := by
  rcases packets_cases bytes with ⟨p, rest, rfl⟩ | h
  · have hlength : (p.bytes.toList ++ rest).length - trailingBytes (p.bytes.toList ++ rest)
        = p.bytes.toList.length + (rest.length - trailingBytes rest) := by
      simp only [trailingBytes, List.length_append, Vector.length_toList, packetSize]
      omega
    rw [packets_cons, List.flatMap_cons, flatMap_packets rest, hlength, List.take_length_add_append]
  · have hzero : bytes.length - trailingBytes bytes = 0 := by
      rw [trailingBytes, Nat.mod_eq_of_lt h, Nat.sub_self]
    rw [packets_of_length_lt h, hzero]
    rfl
termination_by bytes.length
decreasing_by
  subst_vars
  simp only [List.length_append, Vector.length_toList, packetSize]
  omega

/-! ## Rows -/

theorem OpcodeTable.decodeStream_fst (t : OpcodeTable) (bytes : List UInt8) :
    (t.decodeStream bytes).1 = (List.range (bytes.length / packetSize)).map fun i =>
      (t.decodePacket bytes (packetSize * i)).1 := by
  simp only [decodeStream, mapIdx_decode, List.map_map]
  rfl

/-- The row shows the packet of an index in lower-case digits, and its instruction. -/
structure ReportRow.IsAt (t : OpcodeTable) (bytes : List UInt8) (i : Nat) (row : ReportRow) :
    Prop where
  index : row.index = i
  length_hex : row.hex.length = 48
  lower : ∀ c ∈ row.hex.toList, c ∈ "0123456789abcdef".toList
  decode_hex : Hex.decode row.hex.toList
    = some ((bytes.drop (packetSize * i)).take packetSize)
  instruction : row.instruction = (t.decodePacket bytes (packetSize * i)).1

namespace Report

variable (t : OpcodeTable) (bytes : List UInt8)

theorem length_rows : (ofStream t bytes).rows.length = bytes.length / packetSize := by
  simp [ofStream, length_packets, OpcodeTable.length_decodeStream]

theorem getElem?_rows {i : Nat} (h : i < bytes.length / packetSize) :
    ∃ p, Packet.ofList? ((bytes.drop (packetSize * i)).take packetSize) = some p
      ∧ (ofStream t bytes).rows[i]?
        = some ⟨i, p.hex, (t.decodePacket bytes (packetSize * i)).1⟩ := by
  obtain ⟨p, hp⟩ : ∃ p, (CdGraphics.packets bytes)[i]? = some p :=
    ⟨_, List.getElem?_eq_getElem (by rwa [length_packets])⟩
  have hinstruction : (t.decodeStream bytes).1[i]?
      = some (t.decodePacket bytes (packetSize * i)).1 := by
    rw [t.decodeStream_fst, List.getElem?_map, List.getElem?_range h]
    rfl
  have hzip : ((CdGraphics.packets bytes).zip (t.decodeStream bytes).1)[i]?
      = some (p, (t.decodePacket bytes (packetSize * i)).1) :=
    List.getElem?_zip_eq_some.2 ⟨hp, hinstruction⟩
  refine ⟨p, by rw [← getElem?_packets, hp], ?_⟩
  rw [ofStream, List.getElem?_mapIdx, hzip]
  rfl

theorem length_packets_eq :
    (CdGraphics.packets bytes).length = (t.decodeStream bytes).1.length := by
  rw [length_packets, t.length_decodeStream]

/-- What does not depend on a row's place comes from its packet and instruction. -/
theorem map_rows {α : Type} {f : ReportRow → α} {g : Packet × Instruction → α}
    (h : ∀ i x, f ⟨i, x.1.hex, x.2⟩ = g x) : (ofStream t bytes).rows.map f
      = ((CdGraphics.packets bytes).zip (t.decodeStream bytes).1).map g := by
  refine List.ext_getElem? fun i => ?_
  simp only [ofStream, List.getElem?_map, List.getElem?_mapIdx, Option.map_map]
  exact congrArg (Option.map · _) (funext (h i))

theorem map_hex_rows :
    (ofStream t bytes).rows.map ReportRow.hex = (CdGraphics.packets bytes).map Packet.hex := by
  rw [map_rows t bytes (g := fun x => x.1.hex) fun _ _ => rfl]
  conv_rhs => rw [← List.map_fst_zip (Nat.le_of_eq (length_packets_eq t bytes)), List.map_map]
  rfl

theorem decode_hex_rows :
    Hex.decode (String.join ((ofStream t bytes).rows.map ReportRow.hex)).toList
      = some (bytes.take (bytes.length - (ofStream t bytes).trailing)) := by
  have htoList : (CdGraphics.packets bytes).flatMap (fun p => p.hex.toList)
      = Hex.encode ((CdGraphics.packets bytes).flatMap fun p => p.bytes.toList) := by
    rw [Hex.encode_flatMap]
    exact List.flatMap_congr fun p _ => String.toList_ofList
  rw [map_hex_rows, String.toList_join, List.flatMap_map, htoList, Hex.decode_encode,
    flatMap_packets]
  rfl

theorem map_instruction_rows :
    (ofStream t bytes).rows.map ReportRow.instruction = (t.decodeStream bytes).1 := by
  rw [map_rows t bytes (g := Prod.snd) fun _ _ => rfl]
  exact List.map_snd_zip (Nat.le_of_eq (length_packets_eq t bytes).symm)

/-- What a report says of a stream under a table, and that its parts agree. -/
structure Consistent (t : OpcodeTable) (bytes : List UInt8) (r : Report) : Prop where
  length_rows : r.rows.length = bytes.length / packetSize
  row : ∀ i < bytes.length / packetSize, ∃ row, r.rows[i]? = some row ∧ row.IsAt t bytes i
  hex : Hex.decode (String.join (r.rows.map ReportRow.hex)).toList
    = some (bytes.take (bytes.length - r.trailing))
  packets : r.packets = r.rows.length
  total : packetSize * r.packets + r.trailing = bytes.length
  /-- No name is counted in two places. -/
  ascending : r.tally.Ascending
  tally : ∀ name count, (name, count) ∈ r.tally
    ↔ 0 < count ∧ count = (r.rows.map fun row => row.instruction.name).count name
  sum_tally : (r.tally.map Prod.snd).sum = r.packets
  diagnostics : r.diagnostics = (t.decodeStream bytes).2

theorem row_ofStream {i : Nat} (h : i < bytes.length / packetSize) :
    ∃ row, (ofStream t bytes).rows[i]? = some row ∧ row.IsAt t bytes i := by
  obtain ⟨p, hp, hrow⟩ := getElem?_rows t bytes h
  have hhex : p.hex.toList = Hex.encode p.bytes.toList := String.toList_ofList
  refine ⟨_, hrow, rfl, ?_, fun c hc => ?_, ?_, rfl⟩
  · rw [← String.length_toList, hhex, Hex.length_encode, Vector.length_toList]
    rfl
  · rw [hhex] at hc
    exact Hex.mem_encode c hc
  · rw [hhex, Hex.decode_encode, Packet.toList_of_ofList? hp]

theorem consistent_ofStream : (ofStream t bytes).Consistent t bytes where
  length_rows := length_rows t bytes
  row _ h := row_ofStream t bytes h
  hex := decode_hex_rows t bytes
  packets := by
    rw [length_rows]
    exact t.length_decodeStream bytes
  total := by
    show packetSize * (t.decodeStream bytes).1.length + bytes.length % packetSize = bytes.length
    rw [t.length_decodeStream, Nat.div_add_mod]
  ascending := Tally.ascending_ofList _
  tally name count := by
    have hnames : (ofStream t bytes).rows.map (fun row => row.instruction.name)
        = (t.decodeStream bytes).1.map Instruction.name := by
      rw [← map_instruction_rows, List.map_map]
      rfl
    rw [hnames]
    exact Tally.mem_ofList
  sum_tally := by
    show ((Tally.ofList ((t.decodeStream bytes).1.map Instruction.name)).map Prod.snd).sum
      = (t.decodeStream bytes).1.length
    rw [Tally.sum_ofList, List.length_map]
  diagnostics := rfl

end Report

namespace Command

variable {fs : FileSystem (StateM Disk)}

/-- Of a stream that is read, whatever it and its settings are, the command prints a report that
is consistent with it, and with what decoding it gives. The JSON printed holds all of the report:
the report is read from it again. -/
theorem inspect_report {input : Input} {d : Disk} {bytes : List UInt8} {settings : Settings}
    (hread : ((readInput fs input).run d).1 = .ok (bytes, settings)) (json : Bool) :
    ∃ report : Report, report.Consistent (.ofSettings settings) bytes
      ∧ Report.ofJson? report.toJson = some report
      ∧ (inspect fs input json).run d
        = (⟨if json then report.toJson.pretty ++ "\n" else report.text, "", [], none⟩,
          ((readInput fs input).run d).2) := by
  refine ⟨_, Report.consistent_ofStream (.ofSettings settings) bytes, Report.ofJson?_toJson _, ?_⟩
  rw [inspect, run_bind, hread]
  rfl

/-- An instruction, a packet of an unknown opcode, and a tail of three bytes. -/
theorem inspect_report_cut :
    let bytes := (Instruction.memoryPreset 5 0).packet.bytes.toList
      ++ (9 :: 5 :: List.replicate 22 255) ++ [9, 1, 2]
    let d : Disk := ⟨[(["in.cdg"], .file bytes)], []⟩
    ((readInput Disk.fileSystem ⟨"in.cdg", none⟩).run d).1 = .ok (bytes, .standard)
      ∧ ∃ report : Report, report.Consistent (.ofSettings .standard) bytes
        ∧ Report.ofJson? report.toJson = some report
        ∧ (inspect Disk.fileSystem ⟨"in.cdg", none⟩ true).run d
          = (⟨report.toJson.pretty ++ "\n", "", [], none⟩, d)
        ∧ report.diagnostics = [.unknownOpcode (some 1) 5, .truncated 3] := by
  intro bytes d
  have hread : ((readInput Disk.fileSystem ⟨"in.cdg", none⟩).run d).1 = .ok (bytes, .standard) :=
    readInput_of_readFile (by decide +kernel)
  obtain ⟨report, hreport, hjson, hrun⟩ := inspect_report hread true
  refine ⟨hread, report, hreport, hjson, ?_, hreport.diagnostics.trans (by decide +kernel)⟩
  rw [hrun, readInput_run_snd Disk.faithful_fileSystem]
  rfl

end Command

end CdGraphics
