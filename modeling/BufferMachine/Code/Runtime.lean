import BufferMachine.Number.Decimal

/-!
# The runtime

Every generated program starts with the same C text: the buffer, the functions that make, clear and
write it, and `execute`, which performs operations.  Only the number of cells varies.
-/

namespace BufferMachine.Runtime

/-- The number that is added to a cell when it is written as a character. -/
def writeOffset : Nat := 64

/-- The lines before the definitions of the sizes. -/
def includes : List Bytes :=
  List.map bytes ["#include <stdio.h>",
    "#include <string.h>",
    "#include <stdlib.h>",
    ""]

/-- The lines that define the number of cells and the offset of written characters. -/
def sizes (cells : Int) : List Bytes :=
  [bytes "#define MAX_BUFFER_SIZE " ++ Decimal.ofInt cells,
    bytes "#define WRITE_OFFSET " ++ Decimal.ofNat writeOffset]

/-- The types and functions of the runtime. -/
def support : List Bytes :=
  List.map bytes ["",
    "typedef struct buffer",
    "\x7b",
    "    int buffer[MAX_BUFFER_SIZE];",
    "    int pointer;",
    "\x7d buffer_t;",
    "",
    "typedef char *string_t;",
    "",
    "buffer_t make_buffer()",
    "\x7b",
    "    buffer_t buffer;",
    "",
    "    for (int i = 0; i < MAX_BUFFER_SIZE; i++)",
    "    \x7b",
    "        buffer.buffer[i] = 0;",
    "    \x7d",
    "",
    "    buffer.pointer = 0;",
    "    return buffer;",
    "\x7d",
    "",
    "void clear_buffer(buffer_t *buffer)",
    "\x7b",
    "    buffer->pointer = 0;",
    "",
    "    for (int i = 0; i < MAX_BUFFER_SIZE; i++)",
    "    \x7b",
    "        buffer->buffer[i] = 0;",
    "    \x7d",
    "\x7d",
    "",
    "void write(buffer_t *buffer)",
    "\x7b",
    "    for (int i = 0; i < buffer->pointer + 1; i++)",
    "    \x7b",
    "        printf(\"%c\", buffer->buffer[i] + WRITE_OFFSET);",
    "    \x7d",
    "",
    "    printf(\"\\n\");",
    "\x7d",
    "",
    "void execute(buffer_t *buffer, string_t instructions)",
    "\x7b",
    "    int instructions_length = strlen(instructions);",
    "",
    "    for (int i = 0; i < instructions_length; i++)",
    "    \x7b",
    "        switch (instructions[i])",
    "        \x7b",
    "        case '>':",
    "            buffer->pointer++;",
    "            break;",
    "        case '<':",
    "            buffer->pointer--;",
    "            break;",
    "        case '+':",
    "            buffer->buffer[buffer->pointer]++;",
    "            break;",
    "        case '-':",
    "            buffer->buffer[buffer->pointer]--;",
    "            break;",
    "        case '.':",
    "            write(buffer);",
    "            break;",
    "        case ',':",
    "            clear_buffer(buffer);",
    "            break;",
    "        default:",
    "            break;",
    "        \x7d",
    "    \x7d",
    "\x7d",
    ""]

/-- The text before the main function, for a buffer of the given number of cells. -/
def preamble (cells : Int) : Bytes :=
  Bytes.unlines includes ++ Bytes.unlines (sizes cells) ++ Bytes.unlines support

end BufferMachine.Runtime
