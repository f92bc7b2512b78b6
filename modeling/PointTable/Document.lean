import PointTable.Program

/-!
# The document of a program

A program as one ordered record, ready to be written as JSON: options, services, units, read
requests, tasks, storage schema and display names.
-/

namespace PointTable

namespace Document

def ofOptions (options : Options) : Cell :=
  .record [
    ("max_modules", .ofNat options.maxModules),
    ("max_gap", .ofNat options.maxGap),
    ("max_batch_size", .ofNat options.maxBatchSize),
    ("byte_order", .text options.orders.bytes.name),
    ("string_byte_order", .text options.orders.strings.name),
    ("monitor_interval_ms", .ofNat options.monitorInterval)]

def ofService (service : Service) : Cell :=
  .record [
    ("service", .text service.name),
    ("device", .text service.deviceName),
    ("sheet", .text service.sheet),
    ("module", .int service.module),
    ("ip", .text service.ip),
    ("port", .int service.port)]

def ofTag (tag : Tag) : Cell :=
  .record [
    ("name", .text tag.name),
    ("property", .text tag.property),
    ("address", .ofNat tag.address),
    ("register_length", .ofNat tag.registerLength),
    ("type", .text tag.pointType.text),
    ("table", .text tag.table.name),
    ("array_length", .int tag.arrayLength)]

def tagNames (tags : List Tag) : Cell :=
  .list (tags.map fun tag => .text tag.name)

def ofGroup (group : PeriodGroup) : Cell :=
  .record [
    ("key", .text group.key),
    ("period", .text (Period.text group.period)),
    ("trigger_address", .ofText? group.triggerAddress),
    ("return_address", .ofText? group.returnAddress),
    ("tags", tagNames group.tags)]

def ofUnit (unit : SheetUnit) : Cell :=
  .record [
    ("sheet", .text unit.sheet),
    ("module", .int unit.module),
    ("device", .text unit.device.name),
    ("tags", .list (unit.tags.map ofTag)),
    ("groups", .list (unit.groups.map ofGroup))]

def ofBinding (binding : Binding) : Cell :=
  .record [
    ("name", .text binding.name),
    ("offset", .int binding.offset),
    ("type", .text binding.typeText),
    ("register_length", .ofNat binding.registerLength),
    ("array_length", .int binding.arrayLength)]

def ofBlock (key : BlockKey) (index : Nat) (block : Block) : Cell :=
  .record [
    ("task", .text (key.taskName index)),
    ("sheet", .text key.sheet),
    ("module", .int key.module),
    ("table", .text key.table.name),
    ("start_address", .int block.start),
    ("length", .int block.length),
    ("bindings", .list (block.bindings.map ofBinding))]

def ofBlocks (entry : BlockKey × List Block) : List Cell :=
  entry.2.zipIdx.map fun (block, index) => ofBlock entry.1 index block

def ofHandshake (handshake : Handshake) : Cell :=
  .record [
    ("trigger_address", .text handshake.triggerAddress),
    ("return_address", .text handshake.returnAddress),
    ("trigger_value", .int Handshake.triggerValue),
    ("ack_value", .int Handshake.ackValue),
    ("reset_value", .int Handshake.resetValue),
    ("timeout_ms", .ofNat handshake.timeout),
    ("poll_ms", .ofNat handshake.poll)]

def ofTask (task : Task) : Cell :=
  .record ([
    ("kind", .text task.duty.kind.name),
    ("name", .text task.name),
    ("sheet", .text task.sheet),
    ("module", .int task.module),
    ("group_key", .text task.groupKey),
    ("timing_ms", .int task.timing),
    ("tags", tagNames task.tags)]
    ++ (task.duty.storage?.map fun storage => ("storage", Cell.text storage)).toList
    ++ (task.duty.handshake?.map fun handshake => ("handshake", ofHandshake handshake)).toList)

def ofColumn (column : StorageColumn) : Cell :=
  .record [
    ("property", .text column.propertyName),
    ("description", .text column.displayName),
    ("type", .text column.typeText),
    ("json", .bool column.isJson)]

def ofStorage (table : StorageTable) : Cell :=
  .record [
    ("name", .text table.name),
    ("sheet", .text table.sheet),
    ("period", .text (Period.text table.period)),
    ("columns", .list (table.columns.map ofColumn))]

/-- The name a point is shown under and the stem of its tag names. -/
def ofDisplay (display : String × String) : Cell :=
  .record [("name", .text display.1), ("prefix", .text display.2)]

/-- The document of a program. -/
def ofProgram (program : Program) : Cell :=
  .record [
    ("options", ofOptions program.options),
    ("services", .list ((Program.services program.units).map ofService)),
    ("units", .list (program.units.map ofUnit)),
    ("request_blocks", .list (program.requestBlocks.flatMap ofBlocks)),
    ("tasks", .list (program.tasks.map ofTask)),
    ("storage_tables", .list (program.storage.map ofStorage)),
    ("ui_bindings", .list ((Program.displayBindings program.config).map ofDisplay))]

end Document

end PointTable
