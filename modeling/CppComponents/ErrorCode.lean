/-!
# Error codes

The components report errors as `std::error_code`. A code is either one the
component makes itself, with `std::make_error_code(std::errc::…)`, or the
`boost::system::error_code` an asynchronous operation failed with. The two have
different categories, so they are never equal. A handler called with success
(`{}`) is called with `none` here.
-/

namespace CppComponents

/-- The `std::errc` values the components use. -/
inductive Errc where
  | invalidArgument
  | operationNotPermitted
  | operationInProgress
  | operationCanceled
  | alreadyConnected
  | notConnected
  | messageSize
  | noBufferSpace
  | timedOut
  | resourceUnavailableTryAgain
  | ioError
  | hostUnreachable
  | connectionRefused
  deriving DecidableEq, Repr

/-- The error an asynchronous operation completes with. -/
inductive AsioError where
  | operationAborted
  | other (value : Nat)
  deriving DecidableEq, Repr

/-- A failing `std::error_code`. -/
inductive ErrorCode where
  | errc (code : Errc)
  | asio (error : AsioError)
  deriving DecidableEq, Repr

/-- A completion's `boost::system::error_code`, cast to `std::error_code`. -/
def AsioError.toErrorCode (ec : Option AsioError) : Option ErrorCode :=
  ec.map .asio

end CppComponents
