import RpcContracts.Payload.Message

/-!
# Value types

The identity of a runtime type: a plain type, or a wrapper closed over an argument type. Two
spellings exist. The descriptive name shows a wrapper by its bare name, and the qualified name, used
when a value has an unexpected type, shows where each type lives.
-/

namespace RpcContracts

/-- Types that are not wrappers. -/
inductive PlainType where
  | unit
  | bool
  | i32
  | i64
  | u32
  | u64
  | f32
  | f64
  | string
  | bytes
  | message (kind : MessageKind)
  | callContext
  | serverCallContext
  | callOptions
  /-- A type known by its qualified name only. -/
  | named (name : String)
  deriving DecidableEq

namespace PlainType

/-- Every plain type that is not merely known by its name. -/
def all : List PlainType :=
  [unit, bool, i32, i64, u32, u64, f32, f64, string, bytes, callContext, serverCallContext,
   callOptions] ++ MessageKind.all.map message

/-- Unqualified name of a plain type. -/
def shortName : PlainType → String
  | unit => "unit"
  | string => "string"
  | bytes => "bytes"
  | message kind => kind.shortName
  | callContext => "CallContext"
  | serverCallContext => "ServerCallContext"
  | callOptions => "CallOptions"
  | bool => "bool"
  | i32 => "i32"
  | i64 => "i64"
  | u32 => "u32"
  | u64 => "u64"
  | f32 => "f32"
  | f64 => "f64"
  | named qualified => qualified

/-- Qualified name of a plain type. -/
def name : PlainType → String
  | unit => "()"
  | bool => "bool"
  | i32 => "i32"
  | i64 => "i64"
  | u32 => "u32"
  | u64 => "u64"
  | f32 => "f32"
  | f64 => "f64"
  | string => "alloc::string::String"
  | bytes => "alloc::vec::Vec<u8>"
  | message kind => kind.name
  | callContext => "protocall::context::call_context::CallContext"
  | serverCallContext => "protocall::context::server_call_context::ServerCallContext"
  | callOptions => "protocall::context::call_options::CallOptions"
  | named qualified => qualified

end PlainType

/-- Generic wrappers around a payload type. -/
inductive Wrapper where
  /-- A result that arrives later. -/
  | task
  /-- A result that arrives later unless it is already there. -/
  | valueTask
  /-- A result of a method that may fail. -/
  | fallible
  /-- The request side of a streaming call. -/
  | streamReader
  /-- The response side of a streaming call, written by the method. -/
  | streamWriter
  /-- The responses of a streaming call, returned by the method. -/
  | responseStream
  deriving DecidableEq

/-- How a wrapper's content is reached without knowing its argument type. -/
inductive Erasure where
  | deferred
  | fallible
  | reader
  | writer
  | stream
  deriving DecidableEq

namespace Erasure

/-- Printed name of an erasure. -/
def name : Erasure → String
  | deferred => "Deferred"
  | fallible => "Fallible"
  | reader => "Reader"
  | writer => "Writer"
  | stream => "Stream"

end Erasure

namespace Wrapper

/-- Every wrapper. -/
def all : List Wrapper := [task, valueTask, fallible, streamReader, streamWriter, responseStream]

/-- Bare name of a wrapper. -/
def name : Wrapper → String
  | task => "Task"
  | valueTask => "ValueTask"
  | fallible => "Fallible"
  | streamReader => "StreamReader"
  | streamWriter => "StreamWriter"
  | responseStream => "ResponseStream"

/-- Qualified name of a wrapper closed over an argument. -/
def qualifiedName (wrapper : Wrapper) (argument : String) : String :=
  match wrapper with
  | task => "protocall::streaming::task::Task<" ++ argument ++ ">"
  | valueTask => "protocall::streaming::value_task::ValueTask<" ++ argument ++ ">"
  | fallible => "core::result::Result<" ++ argument ++ ", protocall::error::RpcError>"
  | streamReader => "protocall::streaming::stream_reader::StreamReader<" ++ argument ++ ">"
  | streamWriter => "protocall::streaming::stream_writer::StreamWriter<" ++ argument ++ ">"
  | responseStream =>
      "protocall::streaming::response_stream::ResponseStream<" ++ argument ++ ">"

/-- The erasure every type built with the wrapper carries. -/
def erasure : Wrapper → Erasure
  | task => .deferred
  | valueTask => .deferred
  | fallible => .fallible
  | streamReader => .reader
  | streamWriter => .writer
  | responseStream => .stream

end Wrapper

/-- The identity of a runtime type. -/
inductive ValueType where
  | plain (type : PlainType)
  | wrapped (wrapper : Wrapper) (argument : ValueType)
  deriving DecidableEq

namespace ValueType

/-- The type of a message. -/
abbrev message (kind : MessageKind) : ValueType := plain (.message kind)

/-- Name that shows where each part of the type lives. -/
def qualifiedName : ValueType → String
  | plain type => type.name
  | wrapped wrapper argument => wrapper.qualifiedName argument.qualifiedName

end ValueType
end RpcContracts
