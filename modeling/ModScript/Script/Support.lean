import ModScript.Table.Types

/-!
# Support text of scripts

The first part of every script, the same for all mods: the record of everything that the script
installs, the table of variable types, the `game` object through which callbacks reach the process,
logging, and the clean-up that undoes what was installed.
-/

namespace ModScript

namespace Support

/-- The record of what a script has installed. -/
def state : String := r#"'use strict';

const __state = {
    moduleBases: {},
    functions: {},
    attachedHooks: [],
    replacedFunctions: [],
    patchedInstructions: {},
    loopTimers: [],
};"#

/-- How a type is read and written; a raw block has no such pair. -/
def accessors? : VariableType → Option (String × String)
  | .int8 => some ("readS8", "writeS8")
  | .uint8 => some ("readU8", "writeU8")
  | .int16 => some ("readS16", "writeS16")
  | .uint16 => some ("readU16", "writeU16")
  | .int32 => some ("readS32", "writeS32")
  | .uint32 => some ("readU32", "writeU32")
  | .int64 => some ("readS64", "writeS64")
  | .uint64 => some ("readU64", "writeU64")
  | .float => some ("readFloat", "writeFloat")
  | .double => some ("readDouble", "writeDouble")
  | .pointer => some ("readPointer", "writePointer")
  | .utf8String => some ("readUtf8String", "writeUtf8String")
  | .utf16String => some ("readUtf16String", "writeUtf16String")
  | .ansiString => some ("readAnsiString", "writeAnsiString")
  | .block => none

/-- The width of a type as an expression; pointers are as wide as the process has them. -/
def widthExpression : VariableType → String
  | .pointer => "Process.pointerSize"
  | kind => toString (kind.width.getD 0)

/-- The name of an accessor as an expression. -/
def accessorExpression : Option String → String
  | some name => "'" ++ name ++ "'"
  | none => "null"

/-- A line of the table of variable types. -/
def typeLine (kind : VariableType) : String :=
  "    '" ++ kind.name ++ r"': { read: " ++
    accessorExpression ((accessors? kind).map Prod.fst) ++ ", write: " ++
    accessorExpression ((accessors? kind).map Prod.snd) ++ ", size: " ++ widthExpression kind ++
    r" },"

/-- The table of variable types. -/
def typeTable : String :=
  "\n".intercalate (r"const TYPE_MAP = {" :: VariableType.all.map typeLine ++ [r"};"])

/-- The functions that scripts call. -/
def functions : String := r#"function __offset(value) {
    return typeof value === 'string' ? parseInt(value, 16) : value;
}

function __createRuntime(state) {
    const game = {
        resolveAddress(moduleName, offset, pointer) {
            const base = state.moduleBases[moduleName];
            if (!base) return null;
            let addr = base.add(offset);
            if (pointer !== undefined && pointer !== null) {
                addr = addr.readPointer().add(pointer);
            }
            return addr;
        },

        _resolveVar(moduleName, name) {
            const mod = memoryAddresses[moduleName];
            if (!mod || !mod.variables || !mod.variables[name]) {
                throw new Error('Variable not found: ' + moduleName + '.' + name);
            }
            const def = mod.variables[name];
            const pointer = def.Pointer !== undefined ? __offset(def.Pointer) : null;
            const addr = game.resolveAddress(moduleName, __offset(def.Address), pointer);
            if (!addr) throw new Error('Module not loaded: ' + moduleName);
            return { def, addr };
        },

        readVar(moduleName, name) {
            const { def, addr } = game._resolveVar(moduleName, name);
            if (def.Type === 'Block') {
                return addr.readByteArray(__offset(def.Size));
            }
            const typeInfo = TYPE_MAP[def.Type];
            if (!typeInfo) throw new Error('Unknown type: ' + def.Type);
            return addr[typeInfo.read]();
        },

        writeVar(moduleName, name, value) {
            const { def, addr } = game._resolveVar(moduleName, name);
            if (def.Type === 'Block') {
                addr.writeByteArray(value);
                return;
            }
            const typeInfo = TYPE_MAP[def.Type];
            if (!typeInfo) throw new Error('Unknown type: ' + def.Type);
            addr[typeInfo.write](value);
        },

        getVarPtr(moduleName, name) {
            return game._resolveVar(moduleName, name).addr;
        },

        readMemory(address, type) {
            const typeInfo = TYPE_MAP[type];
            if (!typeInfo || !typeInfo.read) throw new Error('Unknown type: ' + type);
            return ptr(address)[typeInfo.read]();
        },

        writeMemory(address, type, value) {
            const typeInfo = TYPE_MAP[type];
            if (!typeInfo || !typeInfo.write) throw new Error('Unknown type: ' + type);
            ptr(address)[typeInfo.write](value);
        },

        alloc(size) {
            return Memory.alloc(size);
        },

        allocString(str) {
            return Memory.allocUtf8String(str);
        },

        registerFunction(moduleName, name, offset, returnType, paramTypes) {
            const base = state.moduleBases[moduleName];
            if (!base) throw new Error('Module not loaded: ' + moduleName);
            if (!state.functions[moduleName]) state.functions[moduleName] = {};
            const addr = base.add(__offset(offset));
            state.functions[moduleName][name] = new NativeFunction(addr, returnType, paramTypes);
        },

        callFunction(moduleName, name, ...args) {
            const fns = state.functions[moduleName];
            if (!fns || !fns[name]) {
                throw new Error('Function not registered: ' + moduleName + '.' + name);
            }
            return fns[name](...args);
        },

        hasFunction(moduleName, name) {
            return !!(state.functions[moduleName] && state.functions[moduleName][name]);
        },

        get executable() {
            return manifest.executable;
        },

        isModuleSupported(moduleName) {
            return _supportedModules.indexOf(moduleName) !== -1;
        },

        get module() {
            const version = game.readVar(game.executable, 'GameVersion');
            const modules = Object.keys(manifest.modules);
            if (version >= 0 && version < modules.length) {
                return modules[version];
            }
            return null;
        },

        deleteInstruction(moduleName, address, size) {
            const base = state.moduleBases[moduleName];
            if (!base) throw new Error('Module not loaded: ' + moduleName);
            const addr = base.add(__offset(address));
            const key = addr.toString();
            if (state.patchedInstructions[key]) return;
            const backup = addr.readByteArray(size);
            Memory.protect(addr, size, 'rwx');
            const nops = new Uint8Array(size);
            nops.fill(0x90);
            addr.writeByteArray(nops.buffer);
            state.patchedInstructions[key] = { addr, size, backup };
        },

        restoreInstructions() {
            for (const key of Object.keys(state.patchedInstructions)) {
                const { addr, size, backup } = state.patchedInstructions[key];
                Memory.protect(addr, size, 'rwx');
                addr.writeByteArray(backup);
                delete state.patchedInstructions[key];
            }
        },

        cleanupHooks() {
            for (const hook of state.attachedHooks) {
                hook.detach();
            }
            state.attachedHooks.length = 0;
            for (const addr of state.replacedFunctions) {
                Interceptor.revert(addr);
            }
            state.replacedFunctions.length = 0;
        },

        cancelLoops() {
            for (const id of state.loopTimers) {
                if (id !== null) clearTimeout(id);
            }
            state.loopTimers.length = 0;
        },

        delay(ms) {
            return new Promise(resolve => setTimeout(resolve, ms));
        },
    };
    return game;
}

const game = __createRuntime(__state);

function __emitLog(level, args) {
    const message = args.join(' ');
    send({ event: '__log', data: { level, message } });
    return message;
}

function log(...args) {
    console.log(__emitLog('info', args));
}

function warn(...args) {
    console.warn(__emitLog('warning', args));
}

function error(...args) {
    console.error(__emitLog('error', args));
}

function __teardown(state) {
    if (typeof __modExit === 'function') {
        try { __modExit(); } catch (e) { error('Exit error:', e.stack); }
    }
    game.cancelLoops();
    game.cleanupHooks();
    game.restoreInstructions();
    state.functions = {};
}

recv('cleanup', function () {
    __teardown(__state);
    send({ event: '__cleanupDone' });
});"#

/-- The support text. -/
def text : String := "\n\n".intercalate [state, typeTable, functions]

end Support

end ModScript
