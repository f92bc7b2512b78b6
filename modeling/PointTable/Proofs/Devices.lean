import PointTable.Proofs.Number.Integer
import PointTable.Proofs.Outcome
import PointTable.Validation

/-!
# Device rows

The device table may hold rows without a name; they count for nothing. Every other row is a device
whose name and IP address are the trimmed texts of its cells. Its port is the integer part of the
number that the port cell spells, and the default where there is no such number. A row makes the
table fail in two ways only: one of its cells cannot be written, or the port is an infinity, which
is a number without integer part.
-/

namespace PointTable.Validation

open Text Number

def nameCell (row : Row) : Cell :=
  row.firstFilled ["Device", "DeviceName"]

def ipCell (row : Row) : Cell :=
  row.firstFilled ["IP"]

/-- The cell that spells the port of a row's device. -/
def portCell (row : Row) : Cell :=
  row.firstFilled ["Port", "PORT"]

/-- The name of a row's device; it is empty in a row without device. -/
def deviceName (row : Row) : String :=
  (nameCell row).trimmedSpelling

/-- The IP address of a row's device. -/
def deviceIp (row : Row) : String :=
  (ipCell row).trimmedSpelling

/-- The rows of the device table that describe a device. -/
def deviceRows (rows : List Row) : List Row :=
  rows.filter fun row => !(deviceName row).isEmpty

/-! ## Ports -/

/-- A cell spells a number with an integer part other than zero, which is the port. -/
def SpellsPort (cell : Cell) (port : Int) : Prop :=
  ∃ number, readDouble (trim cell.plainSpelling) = .ok number ∧ number.truncate = .ok port ∧
    port ≠ 0

/-- A cell spells an infinity, by name or by digits beyond all doubles. -/
def SpellsInfinity (cell : Cell) : Prop :=
  ∃ negative, readDouble (trim cell.plainSpelling) = .ok (.infinite negative)

/-- The port of a cell: the one it spells, or the default if it spells none. -/
inductive PortOf (cell : Cell) : Int → Prop
  | spelled {port : Int} (spells : SpellsPort cell port) : PortOf cell port
  | unspelled (none : ∀ port, ¬SpellsPort cell port) : PortOf cell defaultPort

theorem readPort_of_unwritable {cell : Cell} (unwritable : cell.isWritable = false) :
    readPort cell = .error (.digits .tooManyDigits) := by
  simp [readPort, Cell.toText, unwritable]

theorem readPort_eq_error_iff {cell : Cell} (writable : cell.isWritable = true) {fault : Fault} :
    readPort cell = .error fault ↔ fault = .port .infinity ∧ SpellsInfinity cell := by
  simp only [readPort, Cell.toText, writable, ifWritable_true, Outcome.mapError_ok,
    Outcome.ok_bind, SpellsInfinity]
  cases read : readDouble (trim cell.plainSpelling) with
  | error cause => simp
  | ok number =>
      cases number with
      | nan negative => simp [Double.truncate]
      | infinite negative => simp [Double.truncate, eq_comm]
      | finite negative significand exponent canonical => simp [Double.truncate]

theorem spellsPort_iff {cell : Cell} {number : Double} {port : Int}
    (read : readDouble (trim cell.plainSpelling) = .ok number) :
    SpellsPort cell port ↔ number.truncate = .ok port ∧ port ≠ 0 := by
  simp [SpellsPort, read]

theorem portOf_of_readPort {cell : Cell} {port : Int} (given : readPort cell = .ok port) :
    PortOf cell port := by
  simp only [readPort, Cell.toText, Outcome.bind_eq_ok, Outcome.mapError_eq_ok,
    ifWritable_eq_ok] at given
  obtain ⟨_, ⟨_, rfl⟩, given⟩ := given
  cases read : readDouble (trim cell.plainSpelling) with
  | error cause =>
      simp only [read, Except.ok.injEq] at given
      subst port
      apply PortOf.unspelled
      rintro port ⟨number, spelled, _⟩
      simp [read] at spelled
  | ok number =>
      cases truncated : number.truncate with
      | error fault =>
          have default : port = defaultPort := by
            cases fault <;> simp [read, truncated] at given
            exact given.symm
          subst port
          apply PortOf.unspelled
          intro port spells
          rw [spellsPort_iff read, truncated] at spells
          cases spells.1
      | ok whole =>
          simp only [read, truncated, Except.ok.injEq] at given
          by_cases zero : whole = 0
          · rw [if_pos zero] at given
            subst port
            apply PortOf.unspelled
            intro port spells
            rw [spellsPort_iff read, truncated] at spells
            cases spells.1
            exact spells.2 zero
          · rw [if_neg zero] at given
            subst port
            exact .spelled ((spellsPort_iff read).mpr ⟨truncated, zero⟩)

/-! ## Rows -/

/-- The device of a row that names one. -/
def deviceOf (row : Row) : Except Fault Device := do
  let name ← (nameCell row).trimmedText.mapError .digits
  let ip ← (ipCell row).trimmedText.mapError .digits
  let port ← readPort (portCell row)
  return ⟨name, ip, port⟩

/-- The cells that a device is read off can be written. -/
structure WrittenRow (row : Row) : Prop where
  name : (nameCell row).isWritable = true
  ip : (ipCell row).isWritable = true
  port : (portCell row).isWritable = true

instance (row : Row) : Decidable (WrittenRow row) :=
  decidable_of_iff ((nameCell row).isWritable = true ∧ (ipCell row).isWritable = true ∧
      (portCell row).isWritable = true)
    ⟨fun ⟨name, ip, port⟩ => ⟨name, ip, port⟩,
      fun written => ⟨written.name, written.ip, written.port⟩⟩

/-- What a row needs to be a device. -/
structure ReadableRow (row : Row) : Prop extends WrittenRow row where
  finite : ¬SpellsInfinity (portCell row)

theorem deviceOf_of_written {row : Row} (written : WrittenRow row) :
    deviceOf row =
      (readPort (portCell row)).map fun port => ⟨deviceName row, deviceIp row, port⟩ := by
  simp only [deviceOf, Cell.trimmedText, written.name, written.ip, ifWritable_true,
    Outcome.mapError_ok, Outcome.ok_bind]
  cases readPort (portCell row) <;> rfl

/-- A row with a cell that cannot be written is refused for it, whatever the other cells hold. -/
theorem deviceOf_of_unwritten {row : Row} (unwritten : ¬WrittenRow row) :
    deviceOf row = .error (.digits .tooManyDigits) := by
  cases name : (nameCell row).isWritable with
  | false => simp [deviceOf, Cell.trimmedText, name]
  | true =>
      cases ip : (ipCell row).isWritable with
      | false => simp [deviceOf, Cell.trimmedText, name, ip]
      | true =>
          have port : (portCell row).isWritable = false :=
            Bool.eq_false_iff.mpr fun port => unwritten ⟨name, ip, port⟩
          simp [deviceOf, Cell.trimmedText, name, ip, readPort_of_unwritable port]

theorem deviceOf_eq_ok {row : Row} {device : Device} (given : deviceOf row = .ok device) :
    device.name = deviceName row ∧ device.ip = deviceIp row ∧
      PortOf (portCell row) device.port := by
  by_cases written : WrittenRow row
  · rw [deviceOf_of_written written, Outcome.map_eq_ok] at given
    obtain ⟨port, read, rfl⟩ := given
    exact ⟨rfl, rfl, portOf_of_readPort read⟩
  · simp [deviceOf_of_unwritten written] at given

theorem deviceOf_eq_error_iff {row : Row} {fault : Fault} :
    deviceOf row = .error fault ↔
      (fault = .digits .tooManyDigits ∧ ¬WrittenRow row) ∨
        (fault = .port .infinity ∧ WrittenRow row ∧ SpellsInfinity (portCell row)) := by
  by_cases written : WrittenRow row
  · simp [deviceOf_of_written written, readPort_eq_error_iff written.port, written]
  · simp [deviceOf_of_unwritten written, written, eq_comm]

@[simp] theorem exists_deviceOf_iff {row : Row} :
    (∃ device, deviceOf row = .ok device) ↔ ReadableRow row := by
  constructor
  · rintro ⟨device, given⟩
    have fine : ∀ fault, deviceOf row ≠ .error fault := by simp [given]
    have written : WrittenRow row := by
      by_contra unwritten
      exact fine _ (deviceOf_of_unwritten unwritten)
    refine ⟨written, fun infinite => ?_⟩
    exact fine _ (deviceOf_eq_error_iff.mpr (.inr ⟨rfl, written, infinite⟩))
  · intro readable
    cases outcome : deviceOf row with
    | ok device => exact ⟨device, rfl⟩
    | error fault =>
        rcases deviceOf_eq_error_iff.mp outcome with ⟨_, unwritten⟩ | ⟨_, _, infinite⟩
        · exact absurd readable.toWrittenRow unwritten
        · exact absurd infinite readable.finite

theorem readDevice_eq (row : Row) :
    readDevice row = if (deviceName row).isEmpty then .ok none else (deviceOf row).map some := by
  cases writable : (nameCell row).isWritable with
  | false =>
      have named : (deviceName row).isEmpty = false := by
        rw [deviceName, Cell.trimmedSpelling_isEmpty, Cell.isBlank_of_unwritable writable]
      have unwritten : ¬WrittenRow row := fun written => by simp [written.name] at writable
      rw [nameCell] at writable
      simp [readDevice, Cell.trimmedText, writable, named, deviceOf_of_unwritten unwritten]
  | true =>
      have name : (nameCell row).trimmedText = .ok (deviceName row) := by
        simp [Cell.trimmedText, writable, deviceName]
      simp only [deviceOf, name, Outcome.mapError_ok, Outcome.ok_bind]
      rw [nameCell] at name
      simp only [readDevice, name, Outcome.mapError_ok, Outcome.ok_bind, ipCell, portCell]
      split
      · rfl
      · cases (row.firstFilled ["IP"]).trimmedText with
        | error fault => rfl
        | ok ip => cases readPort (row.firstFilled ["Port", "PORT"]) <;> rfl

@[simp] theorem readDevices_eq_mapM (rows : List Row) :
    readDevices rows = (deviceRows rows).mapM deviceOf := by
  induction rows with
  | nil => rfl
  | cons row rest ih =>
      rw [readDevices, readDevice_eq, ih]
      cases unnamed : (deviceName row).isEmpty with
      | true =>
          have skipped : deviceRows (row :: rest) = deviceRows rest := by
            simp [deviceRows, unnamed]
          rw [skipped]
          cases List.mapM deviceOf (deviceRows rest) <;> rfl
      | false =>
          have kept : deviceRows (row :: rest) = row :: deviceRows rest := by
            simp [deviceRows, unnamed]
          rw [kept, List.mapM_cons]
          cases deviceOf row <;> rfl

/-- The devices follow the rows that name one, each with the name, address and port of its row. -/
theorem forall₂_of_readDevices {rows : List Row} {devices : List Device}
    (read : readDevices rows = .ok devices) :
    List.Forall₂ (fun row device => device.name = deviceName row ∧ device.ip = deviceIp row ∧
      PortOf (portCell row) device.port) (deviceRows rows) devices := by
  rw [readDevices_eq_mapM, Outcome.mapM_eq_ok] at read
  exact read.imp fun row device => deviceOf_eq_ok

theorem names_of_readDevices {rows : List Row} {devices : List Device}
    (read : readDevices rows = .ok devices) :
    devices.map Device.name = (deviceRows rows).map deviceName :=
  (Outcome.map_eq_map (forall₂_of_readDevices read) fun _ _ given => given.1.symm).symm

theorem ips_of_readDevices {rows : List Row} {devices : List Device}
    (read : readDevices rows = .ok devices) :
    devices.map Device.ip = (deviceRows rows).map deviceIp :=
  (Outcome.map_eq_map (forall₂_of_readDevices read) fun _ _ given => given.2.1.symm).symm

end PointTable.Validation
