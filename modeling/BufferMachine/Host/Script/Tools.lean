import BufferMachine.Host.Script.Condition
import BufferMachine.Host.Script.FileTools
import BufferMachine.Host.Script.TextTools

/-!
# Tools

The programs that scripts can call, by their names.
-/

namespace BufferMachine.Script

namespace Tool

def succeed : Tool := fun _ sh => sh.ended 0

def fail : Tool := fun _ sh => sh.ended 1

def printenv : Tool := fun arguments sh =>
  let shown := sh.bindings.filter fun b => sh.exported.contains b.1
  match arguments with
  | [] => sh.print (Bytes.unlines (shown.map fun (name, value) => name ++ bytes "=" ++ value))
  | names =>
    let values := names.filterMap fun name => shown.lookup name
    (sh.print (Bytes.unlines values)).ended (if values.length = names.length then 0 else 1)

def uname : Tool := fun _ sh => sh.print (bytes "Linux\n")

end Tool

def tools : List (Bytes × Tool) :=
  [(bytes "true", Tool.succeed), (bytes "false", Tool.fail), (bytes "sleep", Tool.succeed),
    (bytes "chmod", Tool.succeed), (bytes "sync", Tool.succeed), (bytes "printenv", Tool.printenv),
    (bytes "uname", Tool.uname), (bytes "echo", TextTools.echo), (bytes "printf", TextTools.printf),
    (bytes "seq", TextTools.seq), (bytes "cat", TextTools.cat), (bytes "head", TextTools.head),
    (bytes "tail", TextTools.tail), (bytes "tr", TextTools.tr), (bytes "wc", TextTools.wc),
    (bytes "sort", TextTools.sort), (bytes "tee", TextTools.tee), (bytes "grep", TextTools.grep),
    (bytes "basename", TextTools.basename), (bytes "dirname", TextTools.dirname),
    (bytes "ls", FileTools.ls), (bytes "cp", FileTools.cp), (bytes "mv", FileTools.mv),
    (bytes "ln", FileTools.ln), (bytes "rm", FileTools.rm), (bytes "touch", FileTools.touch),
    (bytes "mkdir", FileTools.mkdir), (bytes "rmdir", FileTools.rmdir),
    (bytes "test", Condition.test), (bytes "[", Condition.bracket)]

end BufferMachine.Script
