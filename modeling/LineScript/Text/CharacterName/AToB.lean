/-! The names of characters that begin with a letter from A to B. -/

namespace LineScript.Text

/-- The names that begin with the letters A and B, packed. -/
def namesAToB : String :=
  "aABACUSbC CURRENTcCORDIONeUNT OFcKdNOWLEDGEcTIVATE ARABIC FORM SHAPINGjSYMMETRIC SWAPPINGcUTE ACCENThNGLE
bDDRESSED TO THE SUBJECTcHESIVE BANDAGEcI SHAKTIcLAM ALIF LENGTHENERgCAPITAL LETTER ALIFvBAwHEvCHIvDAALIwHA
vEvFAvGAwBEvHAvIvJIIMvKAFwHAwPOvLAAMvMIIMvNHAwUNwYAvOvPEvQAAFvRAvSHAwINNYIIYHEvTUvUvVAvWAWvYAwHEvZAL
hONSONANT MODIFIERgDIGIT EIGHTmFIVEnOURmNINEmONEmSEVENnIXmTHREEnWOmZEROgGEMINATE CONSONANT MODIFIERnION MARK
gHAMZAgINITIAL EXCLAMATION MARKoQUESTION MARKgNASALIZATION MARKhUKTAgSMALL LETTER ALIFtBAuHEtCHItDAALIuHAtE
tFAtGAuBEtHAtItJIIMtKAFuHAuPOtLAAMtMIIMtNHAuUNuYAtOtPEtQAAFtRAtSHAuINNYIIYHEtTUtUtVAtWAWtYAuHEtZAL
gVOWEL LENGTHENERcMETOSdISSION TICKETScULTbEGEAN CHECK MARKhDRY MEASURE FIRST SUBUNIT
hLIQUID MEASURE FIRST SUBUNIThMEASURE SECOND SUBUNITpTHIRD SUBUNIThNUMBER EIGHTt HUNDREDuTHOUSANDtY
u THOUSANDoFIFTYt THOUSANDqVEs HUNDREDtTHOUSANDpORTYt THOUSANDqURs HUNDREDtTHOUSANDoNINEs HUNDREDtTHOUSAND
sTYu THOUSANDoONEr HUNDREDsTHOUSANDoSEVENt HUNDREDuTHOUSANDtTYv THOUSANDpIXr HUNDREDsTHOUSANDrTYt THOUSAND
oTENr THOUSANDpHIRTYu THOUSANDqREEt HUNDREDuTHOUSANDpWENTYu THOUSANDqOr HUNDREDsTHOUSANDhWEIGHT BASE UNIT
oFIRST SUBUNITpOURTH SUBUNIToSECOND SUBUNIToTHIRD SUBUNITiORD SEPARATOR DOTwLINEcRIAL TRAMWAYbFGHANI SIGN
bHOM CONSONANT SIGN MEDIAL LAzL LIGATING RAzL RAfDIGIT EIGHTlFIVEmOURlNINElONElSEVENmIXlTHREEmWOlZERO
fLETTER AnLTERNATE BAwGAwTAmBAnHAmCAnHAmDAnDAoHAnHAmGAnHAmHAmJAnHAmKAnHAmLAnLAmMAmNAnGAnNAnYAmPAnHAmRAmSAmTA
nHAnTAoHAfNUMBER TENnWENTYfSIGN KILLERkRULAIkSECTIONlMALL SECTIONgYMBOL VIfVOWEL SIGN ArArIrMrWqEqIrIqOqUrU
bIRPLANEi ARRIVINGjDEPARTUREbKTIESELSKABbLARM CLOCKcCHEMICAL SYMBOL FOR AIRxLEMBICyKALIzALI-2yUMxMALGAM
xNTIMONY ORExQUA REGIAzA REGIA-2zA VITAEzA VITAE-2zAFORTISxRSENICxSHESxURIPIGMENTwBATH OF MARYzH OF VAPOURS
xISMUTH ORExLACK SULFURxORAXzAX-2zAX-3xRICKwCADUCEUSyLXyPUT MORTUUMxINNABARxOPPER ANTIMONIATEzPER ORE
xROCUS OF COPPERzCUS OF COPPER-2zCUS OF IRONyUCIBLEzCIBLE-2zCIBLE-3zCIBLE-4zCIBLE-5wDAY-NIGHTxISSOLVE
zSOLVE-2zTILLwEARTHwFIREwGOLDxUMwHALF DRAMzF OUNCExORSE DUNGyURwIRON OREzN ORE-2zN-COPPER OREwLEAD ORE
xODESTONEwMARCASITExERCURY SUBLIMATEzCURY SUBLIMATE-2zCURY SUBLIMATE-3xONTHwNIGHTyTREwOIL
wPHILOSOPHERS SULFURxOT ASHESyWDERzDERED BRICKxRECIPITATExURIFYyTREFACTIONwQUICK LIMEzNTESSENCEwREALGAR
zLGAR-2yGULUSzULUS OF ANTIMONYzULUS OF ANTIMONY-2zULUS OF IRONzULUS-2zULUS-3zULUS-4yTORTxOCK SALTzK SALT-2
wSAL-AMMONIACzTzT OF ANTIMONYzT OF COPPER ANTIMONIATExCEPTER OF JOVExILVERxOAPxPIRITxTARRED TRIDENT
yRATUM SUPER STRATUMzATUM SUPER STRATUM-2xUBLIMATE OF ANTIMONYzLIMATE OF COPPERzLIMATE OF SALT OF ANTIMONY
zLIMATE OF SALT OF COPPERzLIMATIONyLFURwTARTARzTAR-2xIN OREzCTURExRIDENTxUTTYwURINEwVERDIGRISxINEGAR
zEGAR OF ANTIMONYzEGAR-2zEGAR-3yTRIOLzRIOL-2wWATERyXcEF SYMBOLdMBICdRTcIEN MONSTERcL AROUND-PROFILEeEQUAL TO
cMdOST EQUAL OR EQUAL TOnTOp WITH CIRCUMFLEX ACCENTcTERNATE ONE-WAY LEFT WAY TRAFFICiIVE KEY SYMBOL
bMALGAMATION OR COPRODUCTcBULANCEcERICAN FOOTBALLcPERSANDdHORAbNATOLIAN HIEROGLYPH A001y2y3y4y5y6y7y8y9x10zA
y1y2y3y4y5y6y7y8y9x20y1y2y3y4y5y6zAy7y8y9x30y1y2y3y4y5y6y7y8y9zAx40y1zAy2y3y4y5zAy6zAzBy7y8y9x50y1y2y3y4y5y6
y7y8y9x60y1y2y3y4y5y6zAzBzCy7y8y9x70y1y2y3y4y5y6y7y8y9x80y1y2y3y4y5y6y7y8y9x90y1y2y3y4y5y6y7zAy8zAy9w100zAy1
zAy2zAy3y4zAzBzCy5zAzBy6y7zAzBzCy8y9x10zAzBy1y2y3y4y5zAy6y7y8y9x20y1y2y3y4y5zAy6y7y8y9x30y1y2y3y4y5zAy6y7y8
y9x40y1y2y3y4y5y6y7y8y9x50y1y2y3y4y5y6y7y8y9x60y1y2y3y4y5y6y7y8y9x70y1y2y3y4y5y6y7y8y9x80y1y2y3y4y5y6y7y8y9
x90y1y2y3y4y5y6y7y8y9w200y1y2zAzBy3y4y5y6y7zAy8y9zAx10y1y2y3y4y5zAy6zAy7y8y9x20y1y2y3y4y5y6y7zAy8y9x30y1y2y3
y4y5y6y7y8y9x40y1y2y3y4y5y6y7y8y9x50y1y2y3y4y5y6y7y8y9x60y1y2y3y4y5y6y7zAy8y9x70y1y2y3y4y5y6y7y8y9x80y1y2y3
y4y5y6y7y8y9zAx90y1y2y3y4zAy5y6y7y8y9zAw300y1y2y3y4y5y6y7y8y9zAx10y1y2y3y4y5y6y7y8y9x20y1y2y3y4y5y6y7y8y9zA
x30y1y2AzBzCy3y4y5y6zAzBzCy7y8y9x40y1y2y3y4y5y6y7y8y9x50y1y2y3y4y5y6y7y8y9zAx60y1y2y3y4zAy5y6y7y8zAy9x70y1zA
y2y3y4y5y6y7y8y9x80y1zAy2y3 RA OR RIzAy4y5y6zAy7y8y9x90y1y2y3 EIGHTy4y5y6y7y8y9w400y1y2y3y4y5y6y7y8y9
x10 BEGIN LOGOGRAM MARKzA END LOGOGRAM MARKy1y2y3y4y5y6y7y8y9x20y1y2y3y4y5y6y7y8y9x30y1y2y3y4y5y6y7y8y9x40y1
y2y3y4y5y6y7y8y9x50zAy1y2y3y4y5y6y7zAy8y9x60y1y2y3y4y5y6y7y8y9x70y1y2y3y4y5y6y7y8y9x80y1y2y3y4y5y6y7y8y9x90
y1y2y3y4y5y6y7w501y2y3y4y5y6y7y8y9x10y1y2y3y4y5y6y7y8y9x20y1y2y3y4y5y6y7y8y9x30fMICAL HEARTcCHORcD WITH DOT
cGER SYMBOLdLEf WITH S INSIDElUNDERBARdRY FACEdSTROM SIGNdUISHED FACEcKHcTdENNA WITH BARS
dICLOCKWISE CLOSED CIRCLE ARROWpONTOUR INTEGRALoDOWNWARDS AND UPWARDS OPEN CIRCLE ARROWSoGAPPED CIRCLE ARROW
oINTEGRATIONoOPEN CIRCLE ARROWoTOP SEMICIRCLE ARROWpRIANGLE-HEADED BOTTOM U-SHAPED ARROW
zADED LEFT U-SHAPED ARROWzADED OPEN CIRCLE ARROWzADED RIGHT U-SHAPED ARROWzADED TOP U-SHAPED ARROWbPC
cL FUNCTIONAL SYMBOL ALPHAzHA UNDERBARwBACKSLASH BARwCIRCLE BACKSLASHzCLE DIAERESISzCLE JOTzCLE STAR
zCLE STILEzCLE UNDERBARxOMMA BARwDEL DIAERESISz STILEz TILDEzTA STILEzTA UNDERBARxIAMOND UNDERBAR
xOWN CARET TILDEzN SHOE STILEzN TACK JOTzN TACK UNDERBARzNWARDS VANEwEPSILON UNDERBARwGREATER-THAN DIAERESIS
wI-BEAMxOTAzA UNDERBARwJOT DIAERESISz UNDERBARwLEFT SHOE STILEzTWARDS VANEwOMEGAzGA UNDERBARwQUAD
zD BACKSLASHzD CIRCLEzD COLONzD DELzD DELTAzD DIAMONDzD DIVIDEzD DOWN CARETzD DOWNWARDS ARROWzD EQUAL
zD GREATER-THANzD JOTzD LEFTWARDS ARROWzD LESS-THANzD NOT EQUALzD QUESTIONzD RIGHTWARDS ARROWzD SLASH
zD UP CARETzD UPWARDS ARROWyOTE QUADzTE UNDERBARwRHOxIGHTWARDS VANEwSEMICOLON UNDERBARxLASH BARxQUISH QUAD
xTAR DIAERESISyILE TILDEwTILDE DIAERESISwUP CARET TILDEzSHOE JOTzTACK DIAERESISzTACK JOTzTACK OVERBAR
yWARDS VANEwZILDEcOLLONdSTROPHEcPLICATION PROGRAM COMMANDdROACHES THE LIMIT
fXIMATELY BUT NOT ACTUALLY EQUAL TOoEQUAL OR EQUAL TOuTOw OR THE IMAGE OFbQUARIUSbRABIC BASELINE ROUND DOT
hCOMMAiURLY DAMMAsTANnFATHAsTANnKASRAsTANhDAMMAm ISOLATED FORMnMEDIAL FORMnWITH DOTmTANp ISOLATED FORM
jTE SEPARATORiECIMAL SEPARATORiISPUTED END OF AYAHiOUBLE RIGHT ARROWHEAD ABOVEzHEAD ABOVE WITH DOTnD MADDA
hEMPTY CENTRE HIGH STOPuLOW STOPiND OF AYAHoTEXT MARKhFATHAm ISOLATED FORMnMEDIAL FORMnWITH DOT ABOVEsRING
sTWO DOTSmTANp ISOLATED FORMiIVE POINTED STARiOOTNOTE MARKERiULL STOPhHALF MADDA OVER MADDAjMZA ABOVEnBELOW
hINVERTED DAMMAhKASRAm ISOLATED FORMnMEDIAL FORMnWITH DOT BELOWmTANp ISOLATED FORMhLARGE CIRCLE BELOW
nROUND DOT ABOVExBELOWxINSIDE CIRCLE BELOWiEFT ARROWHEAD ABOVEwBELOWjTTER AEpFRICAN FEHwNOONwQAF
z WITH THREE DOTS ABOVEpINr FINAL FORMsINITIAL FORMtSOLATED FORMsMEDIAL FORMsWITH THREE DOTS ABOVE
zREE DOTS BELOWzREE DOTS POINTING DOWNWARDS ABOVEyWO DOTS ABOVEzO DOTS VERTICALLY ABOVEpLEFs FINAL FORM
tISOLATED FORMtMAKSURAzA FINAL FORMzA ISOLATED FORMtWASLAy FINAL FORMzISOLATED FORM
uITH ATTACHED BOTTOM RIGHT KASRAzTTACHED BOTTOM RIGHT KASRA AND DOT ABOVE
zTTACHED BOTTOM RIGHT KASRA AND LEFT RINGzTTACHED FATHAzTTACHED KASRAzTTACHED LEFT HAMZA
zTTACHED LEFT ROUND DOTzTTACHED RIGHT HAMZAzTTACHED RIGHT ROUND DOTzTTACHED ROUND DOT ABOVE
zTTACHED ROUND DOT BELOWzTTACHED TOP RIGHT FATHAzTTACHED TOP RIGHT FATHA AND DOT ABOVE
zTTACHED TOP RIGHT FATHA AND LEFT RINGyDOT ABOVEyEXTENDED ARABIC-INDIC DIGIT THREE ABOVE
zXTENDED ARABIC-INDIC DIGIT TWO ABOVEyHAMZA ABOVEzAMZA ABOVE FINAL FORMzAMZA ABOVE ISOLATED FORMzAMZA BELOW
zAMZA BELOW FINAL FORMzAMZA BELOW ISOLATED FORMyLEFT MIDDLE STROKEyMADDA ABOVEzADDA ABOVE FINAL FORM
zADDA ABOVE ISOLATED FORMyRIGHT MIDDLE STROKEzIGHT MIDDLE STROKE AND DOT ABOVE
zIGHT MIDDLE STROKE AND LEFT RINGyWAVY HAMZA ABOVEzAVY HAMZA BELOWoBEEHs FINAL FORMtINITIAL FORM
uSOLATED FORMtMEDIAL FORMqHr FINAL FORMsINITIAL FORMtSOLATED FORMsMEDIAL FORM
sWITH DOT BELOW AND THREE DOTS ABOVExHAMZA ABOVExINVERTED SMALL V BELOWxSMALL MEEM ABOVEzALL VzALL V BELOW
xTHREE DOTS HORIZONTALLY BELOWzREE DOTS POINTING UPWARDS BELOW
zREE DOTS POINTING UPWARDS BELOW AND TWO DOTS ABOVEyWO DOTS BELOW AND DOT ABOVErEHt FINAL FORMuINITIAL FORM
vSOLATED FORMuMEDIAL FORMoDADr FINAL FORMsINITIAL FORMtSOLATED FORMsMEDIAL FORMsWITH DOT BELOWqHAL
t FINAL FORMuISOLATED FORMqLr FINAL FORMsISOLATED FORMsWITH DOT BELOWzT BELOW AND SMALL TAHxFOUR DOTS ABOVE
xINVERTED SMALL V BELOWzVERTED VxRINGxTHREE DOTS ABOVE DOWNWARDSzREE DOTS BELOW
yWO DOTS VERTICALLY BELOW AND SMALL TAHpDAHALu FINAL FORMvISOLATED FORMrLs FINAL FORMtISOLATED FORM
pOTLESS BEHwFEHwQAFpULr FINAL FORMsISOLATED FORMpYEHs FINAL FORMtINITIAL FORMuSOLATED FORMtMEDIAL FORMoE
p FINAL FORMqINITIAL FORMrSOLATED FORMqMEDIAL FORMoFARSI YEHx FINAL FORMyINITIAL FORMzSOLATED FORM
yMEDIAL FORMyWITH EXTENDED ARABIC-INDIC DIGIT FOUR BELOWzITH EXTENDED ARABIC-INDIC DIGIT THREE ABOVE
zITH EXTENDED ARABIC-INDIC DIGIT TWO ABOVEzITH INVERTED VzITH THREE DOTS ABOVEzITH TWO DOTS ABOVEpEH
r FINAL FORMsINITIAL FORMtSOLATED FORMsMEDIAL FORMsWITH DOT BELOWzT BELOW AND THREE DOTS ABOVEzT MOVED BELOW
xTHREE DOTS BELOWzREE DOTS POINTING UPWARDS BELOWyWO DOTS BELOWoGAFr FINAL FORMsINITIAL FORMtSOLATED FORM
sMEDIAL FORMsWITH INVERTED STROKExRINGxTHREE DOTS ABOVEyWO DOTS BELOWpHAINt FINAL FORMuINITIAL FORM
vSOLATED FORMuMEDIAL FORMuWITH DOT BELOWzTHREE DOTS ABOVEpRAFpUEHs FINAL FORMtINITIAL FORMuSOLATED FORM
tMEDIAL FORMoHAHr FINAL FORMsINITIAL FORMtSOLATED FORMsMEDIAL FORM
sWITH EXTENDED ARABIC-INDIC DIGIT FOUR BELOWxHAMZA ABOVExINVERTED SMALL V BELOW
xSMALL ARABIC LETTER TAH ABOVEzALL ARABIC LETTER TAH AND TWO DOTSzALL ARABIC LETTER TAH BELOW
xTHREE DOTS ABOVEzREE DOTS POINTING UPWARDS BELOWyWO DOTS ABOVEzO DOTS VERTICAL ABOVEqMZAt ISOLATED FORMpEH
r DOACHASHMEEzHMEE FINAL FORMzHMEE INITIAL FORMzHMEE ISOLATED FORMzHMEE MEDIAL FORMsFINAL FORMsGOAL
w FINAL FORMxINITIAL FORMySOLATED FORMxMEDIAL FORMxWITH HAMZA ABOVEsINITIAL FORMtSOLATED FORMsMEDIAL FORM
sWITH INVERTED VxYEH ABOVEzH ABOVE FINAL FORMzH ABOVE ISOLATED FORMpIGH HAMZAy ALEFzWAWzYEHoJEEMs FINAL FORM
tINITIAL FORMuSOLATED FORMtMEDIAL FORMtWITH THREE DOTS ABOVEzHREE DOTS BELOWzWO DOTS ABOVEqHr FINAL FORM
sISOLATED FORMoKAFr FINAL FORMsINITIAL FORMtSOLATED FORMsMEDIAL FORMsWITH DOT ABOVEzT BELOWxRING
xTHREE DOTS BELOWyWO DOTS ABOVEqSHMIRI YEHpEHEHt FINAL FORMuINITIAL FORMvSOLATED FORMuMEDIAL FORM
uWITH DOT ABOVEzSMALL VzTHREE DOTS ABOVEzTHREE DOTS BELOWzTHREE DOTS POINTING UPWARDS BELOWzTWO DOTS ABOVE
zTWO DOTS VERTICALLY BELOWpHAHs FINAL FORMtINITIAL FORMuSOLATED FORMtMEDIAL FORMpIRGHIZ OEy FINAL FORM
zISOLATED FORMwYUy FINAL FORMzISOLATED FORMoLAMr FINAL FORMsINITIAL FORMtSOLATED FORMsMEDIAL FORMsWITH BAR
xDOT ABOVEzUBLE BARxSMALL ARABIC LETTER TAH ABOVEzALL VxTHREE DOTS ABOVEzREE DOTS BELOWpOW ALEFoMARKpEEM
s FINAL FORMtINITIAL FORMuSOLATED FORMtMEDIAL FORMtWITH DOT ABOVEzOT BELOWyTHREE DOTS ABOVEoNGq FINAL FORM
rINITIAL FORMsSOLATED FORMrMEDIAL FORMqOEHt FINAL FORMuINITIAL FORMvSOLATED FORMuMEDIAL FORMpOONs FINAL FORM
tGHUNNAz FINAL FORMz ISOLATED FORMtINITIAL FORMuSOLATED FORMtMEDIAL FORMtWITH DOT BELOWyINVERTED SMALL V
yRINGySMALL TAHzMALL VyTHREE DOTS ABOVEzWO DOTS BELOWpYEHs FINAL FORMtINITIAL FORMuSOLATED FORMtMEDIAL FORM
oOEq FINAL FORMrISOLATED FORMoPEHr FINAL FORMsINITIAL FORMtSOLATED FORMsMEDIAL FORMsWITH SMALL MEEM ABOVE
zALL VrEHt FINAL FORMuINITIAL FORMvSOLATED FORMuMEDIAL FORMoQAFr FINAL FORMsINITIAL FORMtSOLATED FORM
sMEDIAL FORMsWITH DOT ABOVEzT BELOWzT BELOW AND NO DOTS ABOVExTHREE DOTS ABOVEoREHr FINAL FORMsISOLATED FORM
sWITH DOT BELOWzT BELOW AND DOT ABOVExFOUR DOTS ABOVExHAMZA ABOVExINVERTED VxLOOPxRING
xSMALL ARABIC LETTER TAH AND TWO DOTSzALL NOON ABOVEzALL VzALL V BELOWyTROKExTWO DOTS ABOVE
zO DOTS VERTICALLY ABOVEpNOONt FINAL FORMuINITIAL FORMvSOLATED FORMuMEDIAL FORMpOHINGYA YEHpREHs FINAL FORM
tISOLATED FORMoSADr FINAL FORMsINITIAL FORMtSOLATED FORMsMEDIAL FORMsWITH THREE DOTS ABOVEzREE DOTS BELOW
yWO DOTS BELOWpEENs FINAL FORMtINITIAL FORMuSOLATED FORMtMEDIAL FORMtWITH DOT BELOW AND DOT ABOVE
yEXTENDED ARABIC-INDIC DIGIT FOUR ABOVEyFOUR DOTS ABOVEyINVERTED VySMALL ARABIC LETTER TAH AND TWO DOTS
yTHREE DOTS BELOWzHREE DOTS BELOW AND THREE DOTS ABOVEzWO DOTS VERTICALLY ABOVEpHEENt FINAL FORM
uINITIAL FORMvSOLATED FORMuMEDIAL FORMuWITH DOT BELOWpTRAIGHT WAWpUPERSCRIPT ALEFpWASH KAFoTAHr FINAL FORM
sINITIAL FORMtSOLATED FORMsMEDIAL FORMsWITH DOT BELOWxTHREE DOTS ABOVEzREE DOTS BELOWyWO DOTS ABOVEpCHEH
t FINAL FORMuINITIAL FORMvSOLATED FORMuMEDIAL FORMuWITH DOT ABOVEzSMALL VtEHv FINAL FORMwINITIAL FORM
xSOLATED FORMwMEDIAL FORMpEHr FINAL FORMsINITIAL FORMtSOLATED FORMsMARBUTAz FINAL FORMz GOALz ISOLATED FORM
tEDIAL FORMsWITH RINGxSMALL TEH ABOVEzALL VxTHREE DOTS ABOVE DOWNWARDSrEHt FINAL FORMuINITIAL FORM
vSOLATED FORMuMEDIAL FORMpHALs FINAL FORMtISOLATED FORMqEHs FINAL FORMtINITIAL FORMuSOLATED FORMtMEDIAL FORM
qIN YEHpTEHs FINAL FORMtINITIAL FORMuSOLATED FORMtMEDIAL FORMtWITH SMALL VsEHu FINAL FORMvINITIAL FORM
wSOLATED FORMvMEDIAL FORMoUp FINAL FORMqISOLATED FORMqWITH HAMZA ABOVEzA ABOVE ISOLATED FORM
pIGHUR KAZAKH KIRGHIZ ALEF MAKSURA INITIAL FORMzKH KIRGHIZ ALEF MAKSURA MEDIAL FORMoVEq FINAL FORM
rISOLATED FORMqHr FINAL FORMsINITIAL FORMtSOLATED FORMsMEDIAL FORMoWAWr FINAL FORMsISOLATED FORM
sWITH DOT ABOVEzT WITHINxEXTENDED ARABIC-INDIC DIGIT THREE ABOVEzTENDED ARABIC-INDIC DIGIT TWO ABOVE
xHAMZA ABOVEzMZA ABOVE FINAL FORMzMZA ABOVE ISOLATED FORMxRINGxTWO DOTS ABOVEoYEHr BARREEy FINAL FORM
zISOLATED FORMzWITH EXTENDED ARABIC-INDIC DIGIT THREE ABOVEzWITH EXTENDED ARABIC-INDIC DIGIT TWO ABOVE
zWITH HAMZA ABOVEzWITH HAMZA ABOVE FINAL FORMzWITH HAMZA ABOVE ISOLATED FORMsFINAL FORMsINITIAL FORM
tSOLATED FORMsMEDIAL FORMsWITH HAMZA ABOVEzMZA ABOVE FINAL FORMzMZA ABOVE INITIAL FORM
zMZA ABOVE ISOLATED FORMzMZA ABOVE MEDIAL FORMxSMALL VxTAILyHREE DOTS BELOWyWO DOTS BELOW AND DOT ABOVE
zO DOTS BELOW AND HAMZA ABOVEzO DOTS BELOW AND SMALL NOON ABOVEpUq FINAL FORMrISOLATED FORMoZAHr FINAL FORM
sINITIAL FORMtSOLATED FORMsMEDIAL FORMqINs FINAL FORMtISOLATED FORMtWITH INVERTED V ABOVE
iIGATURE AIN WITH ALEF MAKSURA FINAL FORMzALEF MAKSURA ISOLATED FORMzJEEM INITIAL FORMzJEEM ISOLATED FORM
zJEEM WITH MEEM FINAL FORMzJEEM WITH MEEM INITIAL FORMzMEEM INITIAL FORMzMEEM ISOLATED FORM
zMEEM WITH ALEF MAKSURA FINAL FORMzMEEM WITH MEEM FINAL FORMzMEEM WITH MEEM INITIAL FORM
zMEEM WITH YEH FINAL FORMzYEH FINAL FORMzYEH ISOLATED FORMrKBAR ISOLATED FORMrLAYHAA AS-SALAAM
vE ISOLATED FORMvI AS-SALAAMz-SALAATU WAS-SALAAMwM AS-SALAAMxAA AS-SALAAM
sEF MAKSURA WITH SUPERSCRIPT ALEF FINAL FORMzURA WITH SUPERSCRIPT ALEF ISOLATED FORM
vWITH FATHATAN FINAL FORMz FATHATAN ISOLATED FORMsLAH ISOLATED FORMrZZA WA JALL
qBEH WITH ALEF MAKSURA FINAL FORMzALEF MAKSURA ISOLATED FORMzHAH INITIAL FORMzHAH ISOLATED FORM
zHAH WITH YEH FINAL FORMzHEH INITIAL FORMzHEH MEDIAL FORMzJEEM INITIAL FORMzJEEM ISOLATED FORM
zKHAH INITIAL FORMzKHAH ISOLATED FORMzKHAH WITH YEH FINAL FORMzMEEM FINAL FORMzMEEM INITIAL FORM
zMEEM ISOLATED FORMzMEEM MEDIAL FORMzNOON FINAL FORMzREH FINAL FORMzYEH FINAL FORMzYEH ISOLATED FORM
zZAIN FINAL FORMrISMILLAH AR-RAHMAN AR-RAHEEMqDAD WITH ALEF MAKSURA FINAL FORMzALEF MAKSURA ISOLATED FORM
zHAH INITIAL FORMzHAH ISOLATED FORMzHAH WITH ALEF MAKSURA FINAL FORMzHAH WITH YEH FINAL FORM
zJEEM INITIAL FORMzJEEM ISOLATED FORMzKHAH INITIAL FORMzKHAH ISOLATED FORMzKHAH WITH MEEM FINAL FORM
zKHAH WITH MEEM INITIAL FORMzMEEM INITIAL FORMzMEEM ISOLATED FORMzREH FINAL FORMzREH ISOLATED FORM
zYEH FINAL FORMzYEH ISOLATED FORMqFEH WITH ALEF MAKSURA FINAL FORMzALEF MAKSURA ISOLATED FORM
zHAH INITIAL FORMzHAH ISOLATED FORMzJEEM INITIAL FORMzJEEM ISOLATED FORMzKHAH INITIAL FORM
zKHAH ISOLATED FORMzKHAH WITH MEEM FINAL FORMzKHAH WITH MEEM INITIAL FORMzMEEM INITIAL FORM
zMEEM ISOLATED FORMzMEEM WITH YEH FINAL FORMzYEH FINAL FORMzYEH ISOLATED FORM
qGHAIN WITH ALEF MAKSURA FINAL FORMzH ALEF MAKSURA ISOLATED FORMzH JEEM INITIAL FORMzH JEEM ISOLATED FORM
zH MEEM INITIAL FORMzH MEEM ISOLATED FORMzH MEEM WITH ALEF MAKSURA FINAL FORMzH MEEM WITH MEEM FINAL FORM
zH MEEM WITH YEH FINAL FORMzH YEH FINAL FORMzH YEH ISOLATED FORMqHAH WITH ALEF MAKSURA FINAL FORM
zALEF MAKSURA ISOLATED FORMzJEEM INITIAL FORMzJEEM ISOLATED FORMzJEEM WITH YEH FINAL FORMzMEEM INITIAL FORM
zMEEM ISOLATED FORMzMEEM WITH ALEF MAKSURA FINAL FORMzMEEM WITH YEH FINAL FORMzYEH FINAL FORM
zYEH ISOLATED FORMrEH WITH ALEF MAKSURA ISOLATED FORMzJEEM INITIAL FORMzJEEM ISOLATED FORMzMEEM INITIAL FORM
zMEEM ISOLATED FORMzMEEM WITH JEEM INITIAL FORMzMEEM WITH MEEM INITIAL FORMzSUPERSCRIPT ALEF INITIAL FORM
zYEH ISOLATED FORMqJALLAJALALOUHOUrEEM WITH ALEF MAKSURA FINAL FORMz ALEF MAKSURA ISOLATED FORM
z HAH INITIAL FORMz HAH ISOLATED FORMz HAH WITH ALEF MAKSURA FINAL FORMz HAH WITH YEH FINAL FORM
z MEEM INITIAL FORMz MEEM ISOLATED FORMz MEEM WITH ALEF MAKSURA FINAL FORMz MEEM WITH HAH FINAL FORM
z MEEM WITH HAH INITIAL FORMz MEEM WITH YEH FINAL FORMz YEH FINAL FORMz YEH ISOLATED FORM
qKAF WITH ALEF FINAL FORMzALEF ISOLATED FORMzALEF MAKSURA FINAL FORMzALEF MAKSURA ISOLATED FORM
zHAH INITIAL FORMzHAH ISOLATED FORMzJEEM INITIAL FORMzJEEM ISOLATED FORMzKHAH INITIAL FORM
zKHAH ISOLATED FORMzLAM FINAL FORMzLAM INITIAL FORMzLAM ISOLATED FORMzLAM MEDIAL FORMzMEEM FINAL FORM
zMEEM INITIAL FORMzMEEM ISOLATED FORMzMEEM MEDIAL FORMzMEEM WITH MEEM FINAL FORMzMEEM WITH MEEM INITIAL FORM
zMEEM WITH YEH FINAL FORMzYEH FINAL FORMzYEH ISOLATED FORMrHAH WITH ALEF MAKSURA FINAL FORM
z ALEF MAKSURA ISOLATED FORMz HAH ISOLATED FORMz JEEM INITIAL FORMz JEEM ISOLATED FORMz MEEM INITIAL FORM
z MEEM ISOLATED FORMz YEH FINAL FORMz YEH ISOLATED FORMqLAM WITH ALEF FINAL FORMzALEF ISOLATED FORM
zALEF MAKSURA FINAL FORMzALEF MAKSURA ISOLATED FORMzALEF WITH HAMZA ABOVE FINAL FORM
zALEF WITH HAMZA ABOVE ISOLATED FORMzALEF WITH HAMZA BELOW FINAL FORMzALEF WITH HAMZA BELOW ISOLATED FORM
zALEF WITH MADDA ABOVE FINAL FORMzALEF WITH MADDA ABOVE ISOLATED FORMzHAH INITIAL FORMzHAH ISOLATED FORM
zHAH WITH ALEF MAKSURA FINAL FORMzHAH WITH MEEM FINAL FORMzHAH WITH MEEM INITIAL FORM
zHAH WITH YEH FINAL FORMzHEH INITIAL FORMzJEEM INITIAL FORMzJEEM ISOLATED FORMzJEEM WITH JEEM FINAL FORM
zJEEM WITH JEEM INITIAL FORMzJEEM WITH MEEM FINAL FORMzJEEM WITH MEEM INITIAL FORMzJEEM WITH YEH FINAL FORM
zKHAH INITIAL FORMzKHAH ISOLATED FORMzKHAH WITH MEEM FINAL FORMzKHAH WITH MEEM INITIAL FORMzMEEM FINAL FORM
zMEEM INITIAL FORMzMEEM ISOLATED FORMzMEEM MEDIAL FORMzMEEM WITH HAH FINAL FORMzMEEM WITH HAH INITIAL FORM
zMEEM WITH YEH FINAL FORMzYEH FINAL FORMzYEH ISOLATED FORMqMEEM WITH ALEF FINAL FORM
z ALEF MAKSURA ISOLATED FORMz HAH INITIAL FORMz HAH ISOLATED FORMz HAH WITH JEEM INITIAL FORM
z HAH WITH MEEM INITIAL FORMz HAH WITH YEH FINAL FORMz JEEM INITIAL FORMz JEEM ISOLATED FORM
z JEEM WITH HAH INITIAL FORMz JEEM WITH KHAH INITIAL FORMz JEEM WITH MEEM INITIAL FORM
z JEEM WITH YEH FINAL FORMz KHAH INITIAL FORMz KHAH ISOLATED FORMz KHAH WITH JEEM INITIAL FORM
z KHAH WITH MEEM INITIAL FORMz KHAH WITH YEH FINAL FORMz MEEM FINAL FORMz MEEM INITIAL FORM
z MEEM ISOLATED FORMz MEEM WITH YEH FINAL FORMz YEH ISOLATED FORMrOHAMMAD ISOLATED FORM
qNOON WITH ALEF MAKSURA FINAL FORMz ALEF MAKSURA ISOLATED FORMz HAH INITIAL FORMz HAH ISOLATED FORM
z HAH WITH ALEF MAKSURA FINAL FORMz HAH WITH MEEM INITIAL FORMz HAH WITH YEH FINAL FORMz HEH INITIAL FORM
z HEH MEDIAL FORMz JEEM INITIAL FORMz JEEM ISOLATED FORMz JEEM WITH ALEF MAKSURA FINAL FORM
z JEEM WITH HAH FINAL FORMz JEEM WITH HAH INITIAL FORMz JEEM WITH MEEM FINAL FORM
z JEEM WITH MEEM INITIAL FORMz JEEM WITH YEH FINAL FORMz KHAH INITIAL FORMz KHAH ISOLATED FORM
z MEEM FINAL FORMz MEEM INITIAL FORMz MEEM ISOLATED FORMz MEEM MEDIAL FORM
z MEEM WITH ALEF MAKSURA FINAL FORMz MEEM WITH YEH FINAL FORMz NOON FINAL FORMz REH FINAL FORM
z YEH FINAL FORMz YEH ISOLATED FORMz ZAIN FINAL FORMqQAF WITH ALEF MAKSURA FINAL FORM
zALEF MAKSURA ISOLATED FORMzHAH INITIAL FORMzHAH ISOLATED FORMzMEEM INITIAL FORMzMEEM ISOLATED FORM
zMEEM WITH HAH FINAL FORMzMEEM WITH HAH INITIAL FORMzMEEM WITH MEEM FINAL FORMzMEEM WITH YEH FINAL FORM
zYEH FINAL FORMzYEH ISOLATED FORMsLA USED AS KORANIC STOP SIGN ISOLATED FORMrUDDISA SIRRAHqRADI ALLAAHU ANH
zAHU ANHAAzAHU ANHUMzAHU ANHUMAAzAHU ANHUNNAsHIMAHU ALLAAHyM ALLAAHsSOUL ISOLATED FORM
rEH WITH SUPERSCRIPT ALEF ISOLATED FORMqSAD WITH ALEF MAKSURA FINAL FORMzALEF MAKSURA ISOLATED FORM
zHAH INITIAL FORMzHAH ISOLATED FORMzHAH WITH HAH FINAL FORMzHAH WITH HAH INITIAL FORM
zHAH WITH YEH FINAL FORMzKHAH INITIAL FORMzMEEM INITIAL FORMzMEEM ISOLATED FORMzMEEM WITH MEEM FINAL FORM
zMEEM WITH MEEM INITIAL FORMzREH FINAL FORMzREH ISOLATED FORMzYEH FINAL FORMzYEH ISOLATED FORM
sLAAMUHU ALAYNAAuM ISOLATED FORMtLA ISOLATED FORMwUSED AS KORANIC STOP SIGN ISOLATED FORM
vLLAAHU ALAYHI WA-AALIHyHOU ALAYHE WASALLAMzU ALAYHI WAAALIHEE WA-SALLAMrEEN WITH ALEF MAKSURA FINAL FORM
z ALEF MAKSURA ISOLATED FORMz HAH INITIAL FORMz HAH ISOLATED FORMz HAH MEDIAL FORM
z HAH WITH JEEM INITIAL FORMz HEH INITIAL FORMz HEH MEDIAL FORMz JEEM INITIAL FORMz JEEM ISOLATED FORM
z JEEM MEDIAL FORMz JEEM WITH ALEF MAKSURA FINAL FORMz JEEM WITH HAH INITIAL FORMz KHAH INITIAL FORM
z KHAH ISOLATED FORMz KHAH MEDIAL FORMz KHAH WITH ALEF MAKSURA FINAL FORMz KHAH WITH YEH FINAL FORM
z MEEM INITIAL FORMz MEEM ISOLATED FORMz MEEM MEDIAL FORMz MEEM WITH HAH FINAL FORM
z MEEM WITH HAH INITIAL FORMz MEEM WITH JEEM INITIAL FORMz MEEM WITH MEEM FINAL FORM
z MEEM WITH MEEM INITIAL FORMz REH FINAL FORMz REH ISOLATED FORMz YEH FINAL FORMz YEH ISOLATED FORM
rHADDA WITH DAMMA ISOLATED FORMzTH DAMMA MEDIAL FORMzTH DAMMATAN ISOLATED FORMzTH FATHA ISOLATED FORM
zTH FATHA MEDIAL FORMzTH KASRA ISOLATED FORMzTH KASRA MEDIAL FORMzTH KASRATAN ISOLATED FORM
zTH SUPERSCRIPT ALEF ISOLATED FORMsEEN WITH ALEF MAKSURA FINAL FORMzH ALEF MAKSURA ISOLATED FORM
zH HAH FINAL FORMzH HAH INITIAL FORMzH HAH ISOLATED FORMzH HAH MEDIAL FORMzH HAH WITH MEEM FINAL FORM
zH HAH WITH MEEM INITIAL FORMzH HAH WITH YEH FINAL FORMzH HEH INITIAL FORMzH HEH MEDIAL FORM
zH JEEM FINAL FORMzH JEEM INITIAL FORMzH JEEM ISOLATED FORMzH JEEM MEDIAL FORMzH JEEM WITH YEH FINAL FORM
zH KHAH FINAL FORMzH KHAH INITIAL FORMzH KHAH ISOLATED FORMzH KHAH MEDIAL FORMzH MEEM FINAL FORM
zH MEEM INITIAL FORMzH MEEM ISOLATED FORMzH MEEM MEDIAL FORMzH MEEM WITH KHAH FINAL FORM
zH MEEM WITH KHAH INITIAL FORMzH MEEM WITH MEEM FINAL FORMzH MEEM WITH MEEM INITIAL FORMzH REH FINAL FORM
zH REH ISOLATED FORMzH YEH FINAL FORMzH YEH ISOLATED FORMrUBHAANAHU WA TAAALAAqTABAARAKA WA-TAAALAA
sH WITH ALEF MAKSURA FINAL FORMzALEF MAKSURA ISOLATED FORMzHAH INITIAL FORMzHAH ISOLATED FORM
zMEEM INITIAL FORMzMEEM ISOLATED FORMzMEEM MEDIAL FORMzMEEM WITH HAH FINAL FORMzMEEM WITH HAH INITIAL FORM
zMEEM WITH MEEM INITIAL FORMzMEEM WITH YEH FINAL FORMzYEH FINAL FORMzYEH ISOLATED FORM
rEH WITH ALEF MAKSURA FINAL FORMzALEF MAKSURA ISOLATED FORMzHAH INITIAL FORMzHAH ISOLATED FORM
zHAH WITH JEEM FINAL FORMzHAH WITH JEEM INITIAL FORMzHAH WITH MEEM INITIAL FORMzHEH INITIAL FORM
zHEH MEDIAL FORMzJEEM INITIAL FORMzJEEM ISOLATED FORMzJEEM WITH ALEF MAKSURA FINAL FORM
zJEEM WITH MEEM INITIAL FORMzJEEM WITH YEH FINAL FORMzKHAH INITIAL FORMzKHAH ISOLATED FORM
zKHAH WITH ALEF MAKSURA FINAL FORMzKHAH WITH MEEM INITIAL FORMzKHAH WITH YEH FINAL FORMzMEEM FINAL FORM
zMEEM INITIAL FORMzMEEM ISOLATED FORMzMEEM MEDIAL FORMzMEEM WITH ALEF MAKSURA FINAL FORM
zMEEM WITH HAH INITIAL FORMzMEEM WITH JEEM INITIAL FORMzMEEM WITH KHAH INITIAL FORMzMEEM WITH YEH FINAL FORM
zNOON FINAL FORMzREH FINAL FORMzYEH FINAL FORMzYEH ISOLATED FORMzZAIN FINAL FORM
rHAL WITH SUPERSCRIPT ALEF ISOLATED FORMsEH WITH ALEF MAKSURA FINAL FORMz ALEF MAKSURA ISOLATED FORM
z HEH MEDIAL FORMz JEEM ISOLATED FORMz MEEM FINAL FORMz MEEM INITIAL FORMz MEEM ISOLATED FORM
z MEEM MEDIAL FORMz NOON FINAL FORMz REH FINAL FORMz YEH FINAL FORMz YEH ISOLATED FORMz ZAIN FINAL FORM
qUIGHUR KIRGHIZ YEH WITH HAMZA ABOVE WITH ALEF MAKSURA FINAL FORM
zRGHIZ YEH WITH HAMZA ABOVE WITH ALEF MAKSURA INITIAL FORM
zRGHIZ YEH WITH HAMZA ABOVE WITH ALEF MAKSURA ISOLATED FORMqWASALLAM ISOLATED FORM
qYEH WITH ALEF MAKSURA FINAL FORMzALEF MAKSURA ISOLATED FORMzHAH INITIAL FORMzHAH ISOLATED FORM
zHAH WITH YEH FINAL FORMzHAMZA ABOVE WITH AE FINAL FORMzHAMZA ABOVE WITH AE ISOLATED FORM
zHAMZA ABOVE WITH ALEF FINAL FORMzHAMZA ABOVE WITH ALEF ISOLATED FORM
zHAMZA ABOVE WITH ALEF MAKSURA FINAL FORMzHAMZA ABOVE WITH ALEF MAKSURA ISOLATED FORM
zHAMZA ABOVE WITH E FINAL FORMzHAMZA ABOVE WITH E INITIAL FORMzHAMZA ABOVE WITH E ISOLATED FORM
zHAMZA ABOVE WITH HAH INITIAL FORMzHAMZA ABOVE WITH HAH ISOLATED FORMzHAMZA ABOVE WITH HEH INITIAL FORM
zHAMZA ABOVE WITH HEH MEDIAL FORMzHAMZA ABOVE WITH JEEM INITIAL FORMzHAMZA ABOVE WITH JEEM ISOLATED FORM
zHAMZA ABOVE WITH KHAH INITIAL FORMzHAMZA ABOVE WITH MEEM FINAL FORMzHAMZA ABOVE WITH MEEM INITIAL FORM
zHAMZA ABOVE WITH MEEM ISOLATED FORMzHAMZA ABOVE WITH MEEM MEDIAL FORMzHAMZA ABOVE WITH NOON FINAL FORM
zHAMZA ABOVE WITH OE FINAL FORMzHAMZA ABOVE WITH OE ISOLATED FORMzHAMZA ABOVE WITH REH FINAL FORM
zHAMZA ABOVE WITH U FINAL FORMzHAMZA ABOVE WITH U ISOLATED FORMzHAMZA ABOVE WITH WAW FINAL FORM
zHAMZA ABOVE WITH WAW ISOLATED FORMzHAMZA ABOVE WITH YEH FINAL FORMzHAMZA ABOVE WITH YEH ISOLATED FORM
zHAMZA ABOVE WITH YU FINAL FORMzHAMZA ABOVE WITH YU ISOLATED FORMzHAMZA ABOVE WITH ZAIN FINAL FORM
zHEH INITIAL FORMzHEH MEDIAL FORMzJEEM INITIAL FORMzJEEM ISOLATED FORMzJEEM WITH YEH FINAL FORM
zKHAH INITIAL FORMzKHAH ISOLATED FORMzMEEM FINAL FORMzMEEM INITIAL FORMzMEEM ISOLATED FORMzMEEM MEDIAL FORM
zMEEM WITH MEEM FINAL FORMzMEEM WITH MEEM INITIAL FORMzMEEM WITH YEH FINAL FORMzNOON FINAL FORM
zREH FINAL FORMzYEH FINAL FORMzYEH ISOLATED FORMzZAIN FINAL FORMqZAH WITH MEEM INITIAL FORM
zMEEM ISOLATED FORMzMEEM MEDIAL FORMhMADDA WAAJIBmH ABOVEjRK NOON GHUNNAmSIDEWAYS NOON GHUNNAjTHEMATICAL AIN
vLEFuBEHuDADwLvOTLESS BEHzSS FEHzSS NOONzSS QAFwUBLE-STRUCK AINzE-STRUCK BEHzE-STRUCK DADzE-STRUCK DAL
zE-STRUCK FEHzE-STRUCK GHAINzE-STRUCK HAHzE-STRUCK JEEMzE-STRUCK KHAHzE-STRUCK LAMzE-STRUCK MEEM
zE-STRUCK NOONzE-STRUCK QAFzE-STRUCK REHzE-STRUCK SADzE-STRUCK SEENzE-STRUCK SHEENzE-STRUCK TAHzE-STRUCK TEH
zE-STRUCK THALzE-STRUCK THEHzE-STRUCK WAWzE-STRUCK YEHzE-STRUCK ZAHzE-STRUCK ZAINuFEHuGHAINuHAHuINITIAL AIN
zAL BEHzAL DADzAL FEHzAL GHAINzAL HAHzAL HEHzAL JEEMzAL KAFzAL KHAHzAL LAMzAL MEEMzAL NOONzAL QAFzAL SAD
zAL SEENzAL SHEENzAL TEHzAL THEHzAL YEHuJEEMuKAFvHAHuLAMvOOPED AINzD ALEFzD BEHzD DADzD DALzD FEHzD GHAIN
zD HAHzD HEHzD JEEMzD KHAHzD LAMzD MEEMzD NOONzD QAFzD REHzD SADzD SEENzD SHEENzD TAHzD TEHzD THALzD THEH
zD WAWzD YEHzD ZAHzD ZAINuMEEMuNOONuOPERATOR HAH WITH DALzTOR MEEM WITH HAH WITH TATWEELuQAFuREHuSADvEEN
vHEENvTRETCHED AINzCHED BEHzCHED DADzCHED DOTLESS BEHzCHED DOTLESS FEHzCHED FEHzCHED GHAINzCHED HAHzCHED HEH
zCHED JEEMzCHED KAFzCHED KHAHzCHED MEEMzCHED NOONzCHED QAFzCHED SADzCHED SEENzCHED SHEENzCHED TAHzCHED TEH
zCHED THEHzCHED YEHzCHED ZAHuTAHwILED AINzD DADzD DOTLESS NOONzD DOTLESS QAFzD GHAINzD HAHzD JEEMzD KHAH
zD LAMzD NOONzD QAFzD SADzD SEENzD SHEENzD YEHvEHvHALwEHuWAWuYEHuZAHwINhNUMBER MARK ABOVEoSIGNhOPEN DAMMATAN
mFATHATANmKASRATANhPERCENT SIGNiIASTRE MARK ABOVEiLACE OF SAJDAHiOETIC VERSE SIGNjUND MARK ABOVE
hQUESTION MARKhRAISED ROUND DOTjYiEVERSED DAMMAiIGHT ARROWHEAD ABOVEzOVE WITH DOTxBELOW
iOUNDED HIGH STOP WITH FILLED CENTREhSEMICOLONiHADDAn ISOLATED FORMoMEDIAL FORMiIGN ALAYHE ASSALLAMmMISRA
mRADI ALLAHOU ANHUoHMATULLAH ALAYHEmSAFHAoLLALLAHOU ALAYHE WASSALLAMoMVAToNAHnINDHI AMPERSAND
tPOSTPOSITION MENmTAKHALLUSiMALL DAMMAnFARSI YEHpTHAnHIGH AINsDOTLESS HEAD OF KHAHsFARSI YEHtOOTNOTE MARKER
sJEEMsLAM ALEFtIGATURE ALEF WITH LAM WITH YEHzE QAF WITH LAM WITH ALEF MAKSURA
zE SAD WITH LAM WITH ALEF MAKSURAsMADDAtEEM INITIAL FORMySOLATED FORMsNOONw WITH KASRAsQAFsROUNDED ZEROsSAD
tEENtIGN SAFHAsTAHtHREE DOTSsUPRIGHT RECTANGULAR ZEROsWAWtORD AL-JUZyN-NISFyR-RUByS-SAJDAyTH-THALATHAxQIF
xSAHzKTAxWAQFAsYEHv BARREE WITH TWO DOTS BELOWsZAHuINnKASRAnLOW MEEMrNOON WITH KASRArSEENrWAWsORD IMAALA
xSHMAAMwTASHEELnWAWnYEHiTART OF RUB EL HIZBiUBSCRIPT ALEFjKUNm BELOWnISOLATED FORMnMEDIAL FORM
jPERSCRIPT ALEF MOKHASSASiYMBOL DOT ABOVEsBELOWqUBLE VERTICAL BAR BELOWoFOUR DOTS ABOVEyBELOWoRING
oSMALL TAH ABOVEyBELOWoTHREE DOTS ABOVEzBELOWzPOINTING DOWNWARDS ABOVEzPOINTING DOWNWARDS BELOW
pWO DOTS ABOVExBELOWxVERTICALLY ABOVEzRTICALLY BELOWoWASLA ABOVEhTAIL FRAGMENTjTWEELo WITH FATHATAN ABOVE
uOVERSTRUCK HAMZAzTRUCK WAWuTWO DOTS BELOWiHOUSANDS SEPARATORiONE LOOP ABOVErBELOWmONE DOT ABOVEuBELOW
mTWO DOTS ABOVEvBELOWiRIPLE DOT PUNCTUATION MARKiURNED DAMMA BELOWhVERTICAL TAILiOWEL SIGN DOT BELOW
sINVERTED SMALL V ABOVEsSMALL V ABOVEhWAVY HAMZA BELOWhZWARAKAYg-INDIC CUBE ROOTnDIGIT EIGHTtFIVEuOURtNINE
tONEtSEVENuIXtTHREEuWOtZEROnFOURTH ROOTnPER MILLE SIGNrTEN THOUSAND SIGNcCcIEScMENIAN ABBREVIATION MARK
kPOSTROPHEjCAPITAL LETTER AYByBENyCAzHAzHEHzOyDAyECHzHzTyFEHyGHADzIMyHOyINIyJAzHEHyKEHzENyLIWNyMENyNOWyOH
yPEHzIWRyRAzEHySEHzHAyTIWNzOyVEWzOyXEHyYIzIWNyZAzHEkOMMAjDRAM SIGNjEMPHASIS MARKkXCLAMATION MARKjFULL STOP
jHYPHENjMODIFIER LETTER LEFT HALF RINGjQUESTION MARKjSMALL LETTER AYBwBENwCAxHAyEHxOwDAwECHxHxTwFEHwGHADxIM
wHOwINIwJAxHEHwKEHyNwLIWNwMENwNOWwOHwPEHxIWRwRAxEHwSEHxHAwTIWNxOxURNED AYBwVEWxOwXEHwYIy WITH STROKEyWNwZA
xHEqIGATURE ECH YIWNyMEN ECHzEN INIzEN NOWzEN XEHyVEW NOWcROW POINTING DOWNWARDS THEN CURVING LEFTWARDS
zTHEN CURVING RIGHTWARDSpRIGHTWARDS THEN CURVING DOWNWARDSz THEN CURVING SOUTH WESTz THEN CURVING UPWARDS
pUPWARDS THEN NORTH WESTfHEAD-SHAPED POINTERcTICULATED LORRYeST PALETTEbSCENDING NODEdIA SYMBOLcSERTION
cTERISKi OPERATORhMdONISHED FACEdRAEAeONOMICAL SYMBOL FOR URANUScYMPTOTICALLY EQUAL TObTHLETIC SHOE
cOM SYMBOLbUBERGINEcSTRAL SIGNcTO RICKSHAWeMATED TELLER MACHINEfOBILEbVESTAN ABBREVIATION MARKiLETTER AqArN
rOqErEqNqOpBEqHEpCEpDEqHEpEqEpFEpGEqGEqHEpHEqMEpIqIpJEpKEpLEpMEpNEqGErVErYEqNEqYEpOqOpPEpREpSEqHErYEqSHEpTE
qHEqTEpUqUpVEpXEqVEqYEpYEqYEpZEqHEcOCADObXEaBABYe ANGELfBOTTLEfCHICKfSYMBOLcCK OF ENVELOPE
fWITH LEFTWARDS ARROW ABOVEe-TILTED SHADOWED WHITE RIGHTWARDS ARROWeSLANTED SOUTH ARROW WITH HOOKED TAIL
zITH HORIZONTAL TAILfPACEdONdTRIAN CAMELcDGERdMINTON RACQUET AND SHUTTLECOCKcGELdGAGE CLAIMdUETTE BREAD
cLINESE ADEG ADEGjCARIK PAMUNGKAHrRERENpSIKIjDIGIT EIGHTpFIVEqOURpNINEpONEpSEVENqIXpTHREEqWOpZERO
jLETTER AIKARArKARAv TEDUNGrRCHAIC JNYArSYURA SASAKqBAs KEMBANGqCAs LACAqDAs MADUuURDA ALPAPRANAzMAHAPRANA
qEF SASAKrKARAqGAs GORAqHAqIKARAv TEDUNGqJAs JERAqKAs MAHAPRANAsF SASAKrHOT SASAKqLAs LENGAy TEDUNGqMAqNA
s RAMBATrGArYAqOKARAv TEDUNGqPAs KAPALqRAs REPAx TEDUNGqSAs SAGAvPAqTAs LATIKtMURDA MAHAPRANAtTAWArZIR SASAK
qUKARAv TEDUNGqVE SASAKqWAqYAqZAL SASAKjMUSICAL SYMBOL COMBINING BENDEzOMBINING ENDEPzOMBINING GONG
zOMBINING JEGOGANzOMBINING KEMPLIzOMBINING KEMPLI WITH JEGOGANzOMBINING KEMPULzOMBINING KEMPUL WITH JEGOGAN
zOMBINING TEGEHyDAENGzAINGzANGzANG GEDEzANG SURANGzENGzEUNGzINGzONGzUNGyLEFT-HAND CLOSED PLAK
zEFT-HAND CLOSED PLUKzEFT-HAND OPEN PANGzEFT-HAND OPEN PINGzEFT-HAND OPEN PUNGyRIGHT-HAND CLOSED TAK
zIGHT-HAND CLOSED TUKzIGHT-HAND OPEN DAGzIGHT-HAND OPEN DUGjPAMADAp LANTANGmENENGlNTIo LANTANGjSIGN BISAH
oCECEKoREREKANoSURANGoULU CANDRAsRICEMjVOWEL SIGN LA LENGAzNGA TEDUNGuPEPETz TEDUNGuRA REPAzPA TEDUNGuSUKU
y ILUTuTALINGzG REPAzG REPA TEDUNGzG TEDUNGvEDUNGuULUx SARIjWINDUdL OF YARNeET SHOESeOONh-SPOKED ASTERISK
fT BOLD SCRIPT XjXk WITH BALLOTrOLD CHECKvSCRIPT XqCHECKqLIGHT XqSCRIPT XqXhSCRIPT XhXcMUM COLON
iMBINING MARK KOQNDONvTUKWENTISjMAgFULL STOPgLETTER AnEEnFAAMAEoEEoOMoUnInKAoENpTpUXoIoOpGHOMpVUUoPAoUoYEE
nLAoEEEEoIoOQoUnMoAoBAApENoEEEEpNoIoOoUnNAoDAAoGApGApKWAENoIoJAEMpEEpUAEoSHAoTEEpUUoUpAEoYInOnPAoEEpUX
oHASE-A FIRIvGBIEE FONwHEUAEGHEUAEzAERAEvKAFAxQwETxUKEUTNDAwPOQwUOQvLAPAQwET KUTwOMMAEwUxAEPvMAEKEUPyM
zBGBIEEzKPENzVEUXyNYIySIxNSUAExP PIEETwBANYIyQwEUNJOMNDEUQwGBASAwON NGGEUAETxOMEUTzPUQwVEUAENGAMvNAA MFONxQ
wDA LEERAEWAyANGGEUAETwENwGANGUxGENxKUE MFONzENZEUMwIKAwJAMwKAARAExINDIwSHAyIEEwTAPz MFAAz NTAAxOQPENwYETxI
yT MONGKEUAEQwZA MFONxUN MEUTvPA LEERAEWAxAMyRAExMSHAExSHAEwETwON MFON PIPAEMBAzMFON PIPAEMGBIEE
zPA NJI PIPAEMBAzPA NJI PIPAEMGBIEEwUPvROMvSEUNYAMwHINDA PA NJIyRAExOQ NSHUT YUMxUENSHUETyMwISAwONJAMxQxTwUU
vTEUAENyTEUWENwITA MFONwU MAEMBAxAEPvU YUQ NAEwNKNOWNvVEEtB FEExUXvGHEUGHENzGHEUAEMvKAMwEUAEMyPUQyYEUXwIEEM
xQvLAANAExM NSHUT NYAMwETwOM NTEUMvMAx NJEUAENAzJUQAwBA MAELEEyARAExEURIxIT MBAAKETxUOQwEUQyT NGGEETwFIYAQ
xON TEUAEQwONTIEENvNDU NJAAwGGAAMyEU MBUyUOQzOQ LARGExKINDI MVOPxOMwSENxHUETwTIEE SHEUOQwYAEMAExI NTEUM
vPARUMwEESHIwITwUNGAAMvSAKEUAEwET TUwHET NJAQyUAEQTUwIEEwUEvTAAMwU MAEMGBIEEyNSIEEvVEUMvWUAETvYAFU LEERAEWA
wEURAEtC BUNGvFUEvGBAYIwHAPyRAEvKAAwEN FATIGUEzLAWxTxUKAQyMySEUXzHEUAEPwPARAQwUOP NKAARAExTvLAMxPwIQwU
vMA KEUAERIyNSIEExEMBAySIwBAA CABBAGE-TREEz PICKETyNYIxEEKEETyRAEyUMzXxIyRIEENyTxUAEMyEwGBASAQwIEEwUAE
vNANSANAQxQwDAMyPxEUAEREEzTxIDAxOMBUwGAQxGENyUzAEN NYAMzEETzMzONxKAQyUE MAEMBAxOMwJAEMyMxEEEEyUXxUEQwSA
xEUAENxHAQxOMxUNyOT NGOMwTAAxENyUNGBAxU MBITwYIR MKPARAQ MEUNwZAxEUMvPENwINxRIEENvRUvSETFONxUXwHIQxUEQwUAET
vTAASHAEwETxUTEUXwITA YUEyUAEPvVEUAEPENyXvWANGKUOQwUPvYAAwEUQwU MUOMAExMxWOQtD FAAwEUFEUAETvGHAAxEUAEvKET
xUAETMEUNyMyOT MBUAEyPwUxNxOMxQwWAETwYEEvLEEEExTxUAEPyMwIEEwOQwUMvMwAENJETxLEERIwBAAz SEVENxUOwEEEExUNyT
wFEUAEzTxIEExOyNwGBEUNyIEEyOFUMwONIwUwVOPvNDAMxEEyUXxONwGGAAMzAMAEzPyEUXyUOMyWAENxKAPyEUAEQzURIyIEEyUNyYEEwI
wJAPxEUAEMzTxIyEExUEQwSHEEyUTxIEEPzETxUMwTEEyUMxUUwUwYAMxETxIxUEvPAPwEExUTAEwIPwUQxUTvRAEMwEN MUCHzOLDwII
vSAPxQwEUAEQwHEEyUAEzXxIIxOQxUwOTwUAExExUvTAEwEEEExUAENyNyTwIwOQwUxOTvWAPwUAENvYAEMMAEwENwUOMyPxWOQtE AvFAxQ
wEEwOMwU CALLyIyREMEDYxEyTvGBETyUXwHAAMAExETyUAEzNzXxOMvIvKETxUAEyXwIwOwPEUXwUETxOPxTvLAAMxPxQwEUAEMwOMxONyT
xQwUvMAxEyMxPxQwBEEyUMwENwFEUQwGBAyENwIxEEwONwUAEwVIvNAxEwDAA MY HOUSEz SOFTNESSyPxIAQyQxUNwGAxEUREUTxGEEEE
zUAEzUAETyUAESHAE NYAMzPzRAExKAzAMIyEUAEMzUXyUMzPxOPyQxUAEzETwJAEMLIxEEz EPOCHyUXwKOMwSHIEEyUEzOPwTAPxUM
wYI BETWEENzCLEAVERwZAQxUQvOvPA PEOPLEzLURALxAyMwEEMxUTyXwIxEEQyTwOxONwUxAEyQxExMvRAExQwEUXwIMGBAvSAAwEExT
wHEUAEQxIQxOyQwOMwUAENvTAAyQxEN NTEUMxMxQwENxUyAEQwOOyNxQwUAExMyAEvVEExUAEwOMvWEUXwUExOvYAPwEUAEzETyMyXwIEE
xTwOQ COVERzSWIMMINGwUAENxEQxNxQtF EEvFOMvKAwENxTwOwPAwUwYEEvLAwIwOQvMwAwBAAxENwEEEEwOvNDAAwGGAxKWAENwIwJAEM
xUAEwSHAwTEEwUxAEwYIvPEExUXwUAEvREExNxUXwIEExIwUvSAMBAwEUXwHIIxOxUwIwUUvTAAxEwETvUvVUEQvWAwUEvYAwOQoIoUAEpE
nRAEoEEpNpUXoIEEpIoUnSAMBAoEUXoHEUXpIIpOpUoIoUUnTAApEoENpToInUnWAoUEnYAoOQoUQgNJAEMLIgQUESTION MARK
gSEMICOLONcNANAdJOdKeNOTE WITH DOLLAR SIGNoEURO SIGNoPOUND SIGNoYEN SIGNcR CHARTeOF SOAPdBER POLEcSEBALLdKET
gBALL AND HOOPdSA VAH COMBINING HIGH TONEy-LOW TONEuLOW TONEx-MID TONEuMID TONEkFULL STOPkLETTER ArBArCE
rDHIIsOrEsEsNNIrFArGAHsBUrHWAHrIrJOrKAsPAHrMBErOsOrPArSErTOrUsWUrVUrWAtDDArYEINsIErZOcTdAK CONSONANT SIGN H
vNGgLETTER AnBAnCAnDAnGAnHAnInJAnKARO BAnLAnMApNDAILING HAyNAySAoBAnNAoDAoGAoORTHERN TAoYAnPApKPAK WAnRAnSA
oIMALUNGUN AyGAyHAyLAyMAyPAyRAySAyWAyYAoOUTHERN TAnUnWAnYAgPANGOLATjONGONANgSIGN TOMPIhYMBOL BINDU JUDUL
tNA METEKtPANGOLATuINARBORASgVOWEL SIGN EsErIrKARO IwOrOrPAKPAK ErUs FOR SIMALUNGUN SAdHeTUBdTERY
bEACH WITH UMBRELLAdMED ASCENDING MUSICAL NOTEShDESCENDING MUSICAL NOTEShEIGHTH NOTEShSIXTEENTH NOTESdNS
dR FACEeDED PERSONdTING HEARTdVERcCAUSEcDcER MUGdTLEcLdLe PEPPERfSYMBOLfWITH CANCELLATION STROKEeHOP BELL
cNGALI ABBREVIATION SIGNjNJIjU LENGTH MARKiCURRENCY DENOMINATOR SIXTEENrNUMERATOR FOURzR ONE
zR ONE LESS THAN THE DENOMINATORzR THREEzR TWOiDIGIT EIGHToFIVEpOURoNINEoONEoSEVENpIXoTHREEpWOoZERO
iGANDA MARKiISSHARiLETTER AqAqIqUpBAqHApCAqHApDAqDArHAqHApEpGAqHApHApIqIpJAqHApKAqHAsNDA TApLApMApNAqGAqNA
qYApOpPAqHApRAr WITH LOWER DIAGONALxMIDDLE DIAGONALqHAqRApSAqHAqSApTAqHAqTArHApUqUpVEDIC ANUSVARAqOCALIC LyL
xRyRpYAqYAiRUPEE MARKoSIGNiSANDHI MARKjIGN ANUSVARAoVAGRAHAnCANDRABINDUnNUKTAnVIRAMApSARGAiVOWEL SIGN AAuIuU
tEtIuItOtUuUtVOCALIC LzC LLzC RzC RRdT ARROW POINTING DOWNWARDS THEN NORTH EASTeO BOXdZENE RINGm WITH CIRCLE
cT SYMBOLdWEENcVERAGE BOXbHAIKSUKI DANDAlIGIT EIGHTqFIVErOURqNINEqONEqSEVENrIXqTHREErWOqZEROlOUBLE DANDA
kGAP FILLER-1v2kHUNDREDS UNIT MARKkLETTER AsAsIsUrBAsHArCAsHArDAsDAtHAsHArErGAsHArHArIsIrJAsHArKAsHArLArMA
rNAsGAsNAsYArOrPAsHArRArSAsHAsSArTAsHAsTAtHArUsUrVAsOCALIC LzRzRRrYAkNUMBER EIGHTwYrFIFTYtVEsORTYtURrNINEvTY
rONErSEVENwTYsIXuTYrTENsHIRTYtREEsWENTYtOkSIGN ANUSVARAqVAGRAHApCANDRABINDUpVIRAMArSARGAkVOWEL SIGN AAwIwUvE
vIwIvOvUwUvVOCALIC LzLIC RzLIC RRkWORD SEPARATORbICYCLEgISTcG REVERSE SOLIDUSeSOLIDUScKINIcLLED CAPeIARDS
cOHAZARD SIGNcRDdTHDAY CAKEcSONcTCOIN SIGNdING LIPbLACK BOWTIEgCENTRE WHITE STARhHESS BISHOP
s ROTATED NINETY DEGREESzD TWO HUNDRED SEVENTY DEGREESmEQUIHOPPERw ROTATED NINETY DEGREESmKING
q ROTATED NINETY DEGREESzTWO HUNDRED SEVENTY DEGREESnNIGHTs ROTATED FORTY-FIVE DEGREESzD NINETY DEGREES
zD ONE HUNDRED THIRTY-FIVE DEGREESzD THREE HUNDRED FIFTEEN DEGREESzD TWO HUNDRED SEVENTY DEGREES
zD TWO HUNDRED TWENTY-FIVE DEGREESs-BISHOPtQUEENtROOKmPAWNq ROTATED NINETY DEGREES
zTWO HUNDRED SEVENTY DEGREESmQUEENr ROTATED NINETY DEGREESz TWO HUNDRED SEVENTY DEGREESmROOK
q ROTATED NINETY DEGREESzTWO HUNDRED SEVENTY DEGREESmTURNED BISHOPtKINGuNIGHTtPAWNtQUEENtROOKhIRCLE
m FOR RECORDnWITH DOWN ARROWsTWO WHITE DOTSsWHITE DOT RIGHThLUB SUIThROSS ON SHIELD
hURVED DOWNWARDS AND LEFTWARDS ARROWzD RIGHTWARDS ARROWnLEFTWARDS AND DOWNWARDS ARROWzD UPWARDS ARROW
nRIGHTWARDS AND DOWNWARDS ARROWzND UPWARDS ARROWnUPWARDS AND LEFTWARDS ARROWzRIGHTWARDS ARROWgDIAMOND
n CENTREDoMINUS WHITE XoON CROSSoSUIToWITH DOWN ARROWhOWN POINTING BACKHAND INDEXk-POINTING DOUBLE TRIANGLE
uISOSCELES RIGHT TRIANGLEuSMALL TRIANGLEuTRIANGLEkWARDS EQUILATERAL ARROWHEADhRAUGHTS KINGpMANiOPLETgFLAG
iORETTEhOLDERiUR POINTED STARgHARD SHELL FLOPPY DISKhEARTl SUITiXAGONhORIZONTAL ELLIPSEiURGLASSgLARGE CIRCLE
mSQUAREhEFT LANE MERGElPOINTING BACKHAND INDEXuINDEXk-POINTING DOUBLE TRIANGLEzE TRIANGLE WITH VERTICAL BAR
uISOSCELES RIGHT TRIANGLEuPOINTERuSMALL TRIANGLEuTRIANGLEkWARDS BULLETqEQUILATERAL ARROWHEAD
hOWER LEFT TRIANGLEmRIGHT TRIANGLEiZENGEgMEDIUM DIAMONDoOWN-POINTING TRIANGLEzG TRIANGLE CENTRED
nLEFT-POINTING TRIANGLEzG TRIANGLE CENTREDoOZENGEnRIGHT-POINTING TRIANGLEzNG TRIANGLE CENTREDnSMALL DIAMOND
tLOZENGEtSQUAREoQUAREnUP-POINTING TRIANGLEzTRIANGLE CENTREDhOON LILITHgNIBgOCTAGONgPARALLELOGRAMhENNANT
jTAGONhUSHPINgQUESTION MARK ORNAMENTgRECTANGLEhIGHT POINTING BACKHAND INDEXvINDEXl-POINTING DOUBLE TRIANGLE
zLE TRIANGLE WITH VERTICAL BARvISOSCELES RIGHT TRIANGLEvPENTAGONwOINTERvSMALL TRIANGLEvTRIANGLE
zNGLE WITH DOUBLE VERTICAL BARlWARDS ARROWwHEADrBULLETrEQUILATERAL ARROWHEADhOSETTEgSAFETY SCISSORShCISSORS
hHOGI PIECEhKULL AND CROSSBONEShLIGHTLY SMALL CIRCLEvSQUAREhMALL DIAMONDmLOZENGEmSQUAREnTARiILING FACE
hNOWMANhPADE SUIThQUAREm BUTTONnCENTREDnFOR STOPhTARhUN WITH RAYSgTELEPHONEhINY DIAMONDlLOZENGElSQUARE
hOUCHTONE TELEPHONEhRUCKhWO-WAY LEFT WAY TRAFFICgUNIVERSAL RECYCLING SYMBOLhP POINTING BACKHAND INDEX
i-POINTING DOUBLE TRIANGLEsISOSCELES RIGHT TRIANGLEsSMALL TRIANGLEsTRIANGLEiPER LEFT TRIANGLEmRIGHT TRIANGLE
iWARDS EQUILATERAL ARROWHEADgVERTICAL ELLIPSEpRECTANGLEjY SMALL DIAMONDrLOZENGErSQUARE
f-FEATHERED NORTH EAST ARROWqRIGHTWARDS ARROWqSOUTH EAST ARROWgLETTER CAPITAL CvHvIvRvZdNK SYMBOL
cOCK SEXTANT-1p2q3r4s5s6r5s6r6q4r5s6r6q5r6q6p3q4r5s6r6q56q6p4q5r6q6p5q6p6o2p3q4r5s6r6q5r6q6p4q5r6p5q6p6o3p4
q5r6q6p5q6p6o4p5q6p6o5p6o6dSSOMdWFISHcUE BOOKfHEARTeBERRIESbOARcLD EIGHT SPOKED ASTERISK
fFIVE SPOKED ASTERISKfGREEK CROSSfSALTIREgIX SPOKED ASTERISKfWHITE CIRCLElSQUAREcMdBcNEcOKeMARKi TABSeS
dMERANGcPOMOFO FINAL LETTER GwHwKwPwTjLETTER ArHrIsNNrMrNsGsNrUsNNqBrUqCrHqDqErErHrIrNsGsNrRqFqGrHrNrUrWqHqI
rHrMrNNtNrRrUqJrIqKrWqLrHqMqNrGsGrNqOr WITH DOT ABOVErErMrNGsNrOrUqPqQqRqSrHqTqUrNNqVqXqZrHrIrY
cTTLE WITH POPPING CORKeOM ARC ANTICLOCKWISE ARROWhCURLY BRACKEThHALF BLACK CIRCLEmINTEGRALmLEFT PARENTHESIS
mRIGHT PARENTHESIShLEFT CORNERnROPmHALF BRACKEThPARENTHESIShRIGHT CORNERoROPnHALF BRACKEThSQUARE BRACKET
v OVER TOP SQUARE BRACKEThTORTOISE SHELL BRACKETcUQUETh OF FLOWERScW AND ARROWdL OF HYGIEIAfWITH SPOONeING
dTIEg WITH LEFT HALF BLACKmRIGHT HALF BLACKcX DRAWINGS DOUBLE DOWN AND HORIZONTALzAND LEFTzAND RIGHT
uHORIZONTALuUP AND HORIZONTALzD LEFTzD RIGHTuVERTICALzCAL AND HORIZONTALzCAL AND LEFTzCAL AND RIGHT
pWN DOUBLE AND HORIZONTAL SINGLEzAND LEFT SINGLEzAND RIGHT SINGLEsHEAVY AND HORIZONTAL LIGHTzND LEFT LIGHT
zND LEFT UP LIGHTzND RIGHT LIGHTzND RIGHT UP LIGHTzND UP HORIZONTAL LIGHTsLIGHT AND HORIZONTAL HEAVY
zND LEFT HEAVYzND LEFT UP HEAVYzND RIGHT HEAVYzND RIGHT UP HEAVYzND UP HORIZONTAL HEAVY
sSINGLE AND HORIZONTAL DOUBLEzAND LEFT DOUBLEzAND RIGHT DOUBLEnHEAVY DOUBLE DASH HORIZONTALz DASH VERTICAL
vWNx AND HORIZONTALzND LEFTzND RIGHTtHORIZONTALtLEFTx AND LIGHT RIGHTtQUADRUPLE DASH HORIZONTAL
zPLE DASH VERTICALtRIGHTtTRIPLE DASH HORIZONTALz DASH VERTICALtUPv AND HORIZONTALz LEFTz LIGHT DOWNz RIGHT
tVERTICALzAL AND HORIZONTALzAL AND LEFTzAL AND RIGHTnLEFT DOWN HEAVY AND RIGHT UP LIGHT
sHEAVY AND RIGHT DOWN LIGHTzND RIGHT UP LIGHTzND RIGHT VERTICAL LIGHTsLIGHT AND RIGHT DOWN HEAVY
zND RIGHT UP HEAVYzND RIGHT VERTICAL HEAVYsUP HEAVY AND RIGHT DOWN LIGHToIGHT ARC DOWN AND LEFTzWN AND RIGHT
xUP AND LEFTz AND RIGHTtDIAGONAL CROSSzAL DIAMONDzAL MIDDLE LEFT TO LOWER CENTRE
zAL MIDDLE LEFT TO LOWER CENTRE TO MIDDLE RIGHTzAL MIDDLE LEFT TO UPPER CENTRE TO MIDDLE RIGHT
zAL MIDDLE LEFT TO UPPER CENTRE TO MIDDLE RIGHT TO LOWER CENTREzAL MIDDLE RIGHT TO LOWER CENTRE
zAL MIDDLE RIGHT TO UPPER CENTRE TO MIDDLE LEFT TO LOWER CENTREzAL UPPER CENTRE TO MIDDLE LEFT
zAL UPPER CENTRE TO MIDDLE LEFT AND MIDDLE RIGHT TO LOWER CENTRE
zAL UPPER CENTRE TO MIDDLE LEFT TO LOWER CENTRE
zAL UPPER CENTRE TO MIDDLE LEFT TO LOWER CENTRE TO MIDDLE RIGHTzAL UPPER CENTRE TO MIDDLE RIGHT
zAL UPPER CENTRE TO MIDDLE RIGHT AND MIDDLE LEFT TO LOWER CENTRE
zAL UPPER CENTRE TO MIDDLE RIGHT TO LOWER CENTRE
zAL UPPER CENTRE TO MIDDLE RIGHT TO LOWER CENTRE TO MIDDLE LEFTzAL UPPER LEFT TO LOWER RIGHT
zAL UPPER RIGHT TO LOWER LEFTuOUBLE DASH HORIZONTALz DASH VERTICALvWNx AND HORIZONTALzND LEFTzND RIGHT
tHORIZONTALzNTAL WITH VERTICAL STROKEtLEFTx AND HEAVY RIGHTtQUADRUPLE DASH HORIZONTALzPLE DASH VERTICAL
tRIGHTtTRIPLE DASH HORIZONTALz DASH VERTICALtUPv AND HEAVY DOWNz HORIZONTALz LEFTz RIGHTtVERTICAL
zAL AND HORIZONTALzAL AND LEFTzAL AND RIGHTnRIGHT DOWN HEAVY AND LEFT UP LIGHTtHEAVY AND LEFT DOWN LIGHT
zAND LEFT UP LIGHTzAND LEFT VERTICAL LIGHTtLIGHT AND LEFT DOWN HEAVYzAND LEFT UP HEAVY
zAND LEFT VERTICAL HEAVYtUP HEAVY AND LEFT DOWN LIGHTnUP DOUBLE AND HORIZONTAL SINGLEzD LEFT SINGLE
zD RIGHT SINGLEqHEAVY AND DOWN HORIZONTAL LIGHTz HORIZONTAL LIGHTz LEFT DOWN LIGHTz LEFT LIGHT
z RIGHT DOWN LIGHTz RIGHT LIGHTqLIGHT AND DOWN HORIZONTAL HEAVYz HORIZONTAL HEAVYz LEFT DOWN HEAVY
z LEFT HEAVYz RIGHT DOWN HEAVYz RIGHT HEAVYqSINGLE AND HORIZONTAL DOUBLEzD LEFT DOUBLEzD RIGHT DOUBLE
nVERTICAL DOUBLE AND HORIZONTAL SINGLEzBLE AND LEFT SINGLEzBLE AND RIGHT SINGLEwHEAVY AND HORIZONTAL LIGHT
zVY AND LEFT LIGHTzVY AND RIGHT LIGHTwLIGHT AND HORIZONTAL HEAVYzHT AND LEFT HEAVYzHT AND RIGHT HEAVY
wSINGLE AND HORIZONTAL DOUBLEzGLE AND LEFT DOUBLEzGLE AND RIGHT DOUBLEdING GLOVEcYdS SYMBOLbPHbRAHMI DANDA
iIGIT EIGHTnFIVEoOURnNINEnONEnSEVENoIXnTHREEoWOnZEROiOUBLE DANDAhLETTER ApApIpUoBApHAoCApHAoDApDAqHApHAoEoGA
pHAoHAoIpIoJApHAoKApHAoLApLAoMAoNApGApNApYAoOpLD TAMIL LLAzLLAyNNNAyRRAySHORT EzHORT OoPApHAoRAoSApHApSAoTA
pHApTAqHAoUpUoVApOCALIC LxLwRxRoYAhNUMBER EIGHTtYoFIFTYqVEpORTYqURoJOINERoNINEsTYoONEr HUNDREDsTHOUSAND
oSEVENtTYpIXrTYoTENpHIRTYqREEpWENTYqOhPUNCTUATION CRESCENT BARtDOTvUBLE DOTtLINEuOTUShSIGN ANUSVARA
mCANDRABINDUmJIHVAMULIYAmOLD TAMIL VIRAMAmUPADHMANIYAmVISARGAhVIRAMAiOWEL SIGN AAtItUsBHATTIPROLU AAsEsItIsO
tLD TAMIL SHORT EzIL SHORT OsUtUsVOCALIC Lz LLz Rz RRdILLE PATTERN BLANKqDOTS-1w2x3y4z5z56z567z5678z568z57
z578z58z6z67z678z68z7z78z8y5z6z67z678z68z7z78z8y6z7z78z8y7z8y8x4y5z6z67z678z68z7z78z8y6z7z78z8y7z8y8x5y6z7
z78z8y7z8y8x6y7z8y8x7y8x8w3x4y5z6z67z678z68z7z78z8y6z7z78z8y7z8y8x5y6z7z78z8y7z8y8x6y7z8y8x7y8x8w4x5y6z7z78
z8y7z8y8x6y7z8y8x7y8x8w5x6y7z8y8x7y8x8w6x7y8x8w7x8w8v2w3x4y5z6z67z678z68z7z78z8y6z7z78z8y7z8y8x5y6z7z78z8y7
z8y8x6y7z8y8x7y8x8w4x5y6z7z78z8y7z8y8x6y7z8y8x7y8x8w5x6y7z8y8x7y8x8w6x7y8x8w7x8w8v3w4x5y6z7z78z8y7z8y8x6y7z8
y8x7y8x8w5x6y7z8y8x7y8x8w6x7y8x8w7x8w8v4w5x6y7z8y8x7y8x8w6x7y8x8w7x8w8v5w6x7y8x8w7x8w8v6w7x8w8v7w8v8eNcEAD
eK PERMITTED HEREeST-FEEDINGdVEcICKdDE WITH VEILeGE AT NIGHTdEFCASEfScOCCOLIdKEN BAR
hCIRCLE WITH NORTHWEST ARROWhHEARTdOMdWN HEARTbSbUBBLE TEAgScCKETcGdINESE END OF SECTIONjLETTER AqBAqCAqDA
qGAqHAqJAqKAqLAqMArPAqNArGAsKArRArYAsCAqPAqRAqSAqTAqVAqYAjPALLAWAjVOWEL SIGN AEuEuIuOuUcHID LETTER AnBAnDA
nGAnHAnInKAnLAnMAnNAoGAnPAnRAnSAnTAnUnWAnYAgVOWEL SIGN IrUcILDING CONSTRUCTIONcLLETg OPERATOReHORN
i WITH SOUND WAVESeSEYEcRRITOcSd STOPdT IN SILHOUETTEeS IN SILHOUETTEcTTERgFLYbYTE ORDER MARK
cZANTINE MUSICAL SYMBOL AGOGI ARGIzAGOGI ARGOTERIzAGOGI GORGIzAGOGI GORGOTERIzAGOGI MESIzAGOGI METRIA
zAGOGI POLI ARGIzAGOGI POLI GORGIzANATRICHISMAzANTIKENOKYLISMAzANTIKENOMAzAPESO EKFONITIKONzAPESO EXO NEO
zAPLIzAPODERMA ARCHAIONzAPODERMA NEOzAPOSTROFOI SYNDESMOS NEOzAPOSTROFOI TELOUS ICHIMATOSzAPOSTROFOS
zAPOSTROFOS DIPLIzAPOSTROFOS NEOzAPOTHEMAzARGONzARGOSYNTHETONzARKTIKO DIzARKTIKO GAzARKTIKO KEzARKTIKO NI
zARKTIKO PAzARKTIKO VOUzARKTIKO ZOzCHAMILIzCHAMILONzCHOREVMA ARCHAIONzCHOREVMA NEOzCHROA KLITONzCHROA SPATHI
zCHROA ZYGOSzDASEIAzDIARGONzDIASTOLI APLI MEGALIzDIASTOLI APLI MIKRIzDIASTOLI DIPLIzDIASTOLI THESEOS
zDIESIS APLI DYO DODEKATAzDIESIS DIGRAMMOS EX DODEKATAzDIESIS MONOGRAMMOS TESSERA DODEKATA
zDIESIS TETARTIMORIONzDIESIS TRIGRAMMOS OKTO DODEKATAzDIESIS TRITIMORIONzDIFTOGGOS OUzDIGORGON
zDIGORGON PARESTIGMENON ARISTERA ANOzDIGORGON PARESTIGMENON ARISTERA KATOzDIGORGON PARESTIGMENON DEXIA
zDIGRAMMA GGzDIPLIzDIPLI ARCHAIONzDYOzEKSTREPTONzELAFRONzENARXIS KAI FTHORA VOUzENDOFONONzEPEGERMA
zETERON ARGOSYNTHETONzETERON PARAKALESMAzEXO EKFONITIKONzFANEROSIS DIFONIASzFANEROSIS MONOFONIAS
zFANEROSIS TETRAFONIASzFHTORA SKLIRON CHROMA VASISzFTHORA ARCHAIONzFTHORA ARCHAION DEYTEROU ICHOU
zFTHORA DIATONIKI DIzFTHORA DIATONIKI KEzFTHORA DIATONIKI NANAzFTHORA DIATONIKI NI ANO
zFTHORA DIATONIKI NI KATOzFTHORA DIATONIKI PAzFTHORA DIATONIKI ZOzFTHORA ENARMONIOS ANTIFONIA
zFTHORA I YFESIS TETARTIMORIONzFTHORA MALAKON CHROMA DIFONIASzFTHORA MALAKON CHROMA MONOFONIAS
zFTHORA NAOS ICHOSzFTHORA NENANOzFTHORA SKLIRON CHROMA SYNAFIzFTHORA SKLIRON CHROMA VASIS
zFTHORA SKLIRON DIATONON DIzGENIKI DIESISzGENIKI YFESISzGORGON ARCHAIONzGORGON NEO ANOzGORGON NEO KATO
zGORGON PARESTIGMENON ARISTERAzGORGON PARESTIGMENON DEXIAzGORGOSYNTHETONzGORTHMIKON N APLOUN
zGORTHMIKON N DIPLOUNzGRONTHISMATAzICHADINzIMIDIARGONzIMIFONONzIMIFTHORAzIMIFTHORONzISAKIA TELOUS ICHIMATOS
zISON ARCHAIONzISON NEOzKATAVA TROMIKONzKATAVASMAzKATHISTIzKENTIMA ARCHAIONzKENTIMA NEO ANOzKENTIMA NEO KATO
zKENTIMA NEO MESOzKENTIMATAzKENTIMATA ARCHAIONzKENTIMATA NEO ANOzKENTIMATA NEO KATOzKENTIMATA NEO MESO
zKLASMAzKLASMA ANOzKLASMA KATOzKONTEVMAzKONTEVMA ALLOzKORONISzKOUFISMAzKRATIMA ALLOzKRATIMA ARCHAION
zKRATIMA NEOzKRATIMATAzKRATIMOKOUFISMAzKRATIMOYPORROONzKREMASTIzKYLISMAzLEIMMA DYO CHRONON
zLEIMMA ENOS CHRONOUzLEIMMA IMISEOS CHRONOUzLEIMMA TESSARON CHRONONzLEIMMA TRION CHRONONzLEMOIzLYGISMA
zMARTYRIA ALLI DEYTEROS ICHOSzMARTYRIA ALLI PROTOS ICHOSzMARTYRIA DEYTEROS ICHOSzMARTYRIA LEGETOS ICHOS
zMARTYRIA PLAGIOS ICHOSzMARTYRIA PLAGIOS TETARTOS ICHOSzMARTYRIA PROTOS ICHOSzMARTYRIA PROTOVARYS ICHOS
zMARTYRIA TETARTOS ICHOSzMARTYRIA TETARTOS LEGETOS ICHOSzMARTYRIA TRIFONIASzMARTYRIA TRITOS ICHOS
zMARTYRIA VARYS ICHOSzMIKRON ISONzNANAzOLIGON ARCHAIONzOLIGON NEOzOMALONzOXEIA DIPLIzOXEIA EKFONITIKON
zOXEIA NEOzOXEIAI ARCHAIONzOYRANISMA ARCHAIONzOYRANISMA NEOzPARAKALESMA ARCHAIONzPARAKALESMA NEOzPARAKLITIKI
zPARAKLITIKI ARCHAIONzPARAKLITIKI NEOzPARICHONzPELASTONzPELASTON NEOzPERISPOMENIzPETASMAzPETASTI
zPETASTOKOUFISMAzPIASMA ARCHAIONzPIASMA NEOzPSIFISTOLYGISMAzPSIFISTONzPSIFISTON NEOzPSIFISTOPARAKALESMA
zPSIFISTOSYNAGMAzPSILIzPSILONzRAPISMAzREVMAzSAXIMATAzSEISMAzSEISMA NEOzSIMANSIS ARSEOS
zSIMANSIS ARSEOS DISIMOUzSIMANSIS ARSEOS TETRASIMOUzSIMANSIS ARSEOS TRISIMOUzSIMANSIS THESEOS
zSIMANSIS THESEOS DISIMOUzSIMANSIS THESEOS TETRASIMOUzSIMANSIS THESEOS TRISIMOUzSTAVROSzSTAVROS APODEXIA
zSTIGMAzSTRAGGISMATAzSYNAGMA ARCHAIONzSYNAGMA META STAVROUzSYNAGMA NEOzSYNEVMAzSYRMAzSYRMATIKIzTELEIA
zTESSERAzTETRAPLIzTHEMAzTHEMA APLOUNzTHEMATISMOS ESOzTHEMATISMOS EXOzTHES KAI APOTHESzTHITAzTINAGMAzTRIA
zTRIGORGONzTRIPLIzTROMIKOLYGISMAzTROMIKON ALLOzTROMIKON ARCHAIONzTROMIKON NEOzTROMIKOPARAKALESMA
zTROMIKOPSIFISTONzTROMIKOSYNAGMAzVAREIA DIPLIzVAREIA EKFONITIKONzVAREIA NEOzVAREIAI ARCHAIONzVATHY
zXIRON KLASMAzYFEN ANOzYFEN KATOzYFESIS APLI DYO DODEKATAzYFESIS DIGRAMMOS EX DODEKATA
zYFESIS MONOGRAMMOS TESSERA DODEKATAzYFESIS TRIGRAMMOS OKTO DODEKATAzYFESIS TRITIMORIONzYPOKRISIS
zYPOKRISIS DIPLIzYPORROIzYPSILI"

end LineScript.Text
